import BoardWarden.Proofs.Quiet
import BoardWarden.Proofs.Rail.Book
import BoardWarden.Proofs.Rail.Tape

set_option autoImplicit false

/-!
No rail is asserted without its parent, between any two writes of a sequence. The rails that may be
asserted are bounded by a list in which no child comes before its parent: raising a rail of the list
takes a live parent, and only the last rail of the list is lowered. Feedback may say anything.
-/

namespace BoardWarden

def Rail.Asserted {σ : Type} [Board σ] (row : Rail) (b : σ) : Prop :=
  (Board.readLine row.enable.line b).1 = .ok (row.enable.level true)

instance {σ : Type} [Board σ] (row : Rail) (b : σ) : Decidable (row.Asserted b) :=
  decidable_of_iff ((Board.readLine row.enable.line b).1.toOption = some (row.enable.level true)) (by
    rw [Rail.Asserted]
    cases (Board.readLine row.enable.line b).1 <;> simp [Except.toOption])

namespace RailBank

section Board

variable {σ : Type} [Board σ] (bank : RailBank)

/-- Every asserted rail that is not a root has an asserted parent. -/
def Closed (b : σ) : Prop :=
  ∀ rail row, bank.row? rail = some row → row.parent ≠ rail → row.Asserted b →
    ∃ above, bank.row? row.parent = some above ∧ above.Asserted b

instance (b : σ) : Decidable (bank.Closed b) :=
  decidable_of_iff
    (∀ entry ∈ bank.table.zipIdx, entry.1.parent ≠ ⟨entry.2⟩ → entry.1.Asserted b →
      ∃ above ∈ bank.row? entry.1.parent, above.Asserted b)
    ⟨fun h rail row hrow child on => h (row, rail.index) (List.mem_zipIdx_iff_getElem?.2 hrow) child on,
      fun h entry listed child on =>
        h ⟨entry.2⟩ entry.1 (List.mem_zipIdx_iff_getElem?.1 listed) child on⟩

def FoundOn (rail : RailId) (w : Watched σ) : Prop :=
  ∃ p : Plant (Watched σ), (bank.status rail p).1 = .on ∧ (bank.status rail p).2.board = w

def LooksOnly (σ : Type) [Board σ] : Prop :=
  (∀ line (b : σ), (Board.readLine line b).2 = b) ∧
    ∀ channel (b : σ), (Board.readMillivolts channel b).2 = b

theorem status_board (looks : LooksOnly σ) (rail : RailId) (p : Plant σ) :
    (bank.status rail p).2.board = p.board := by
  have enabled : ∀ row (p : Plant σ), (RailBank.enabled row p).2.board = p.board :=
    fun row p => looks.1 _ _
  have confirmed : ∀ row (p : Plant σ), (RailBank.confirmed row p).2.board = p.board := by
    intro row p
    simp only [RailBank.confirmed]
    split
    · rfl
    · exact looks.2 _ _
    · exact looks.1 _ _
  simp only [status]
  split
  · rfl
  · split
    · exact (confirmed _ _).trans (enabled _ p)
    · exact enabled _ p

/-- Every write on the tape leaves the rails closed, and a rail that is not a root is raised only
right after a look that found its parent on. -/
def Clean (tape : List (Call × σ)) : Prop :=
  ∀ later line level b earlier, tape = later ++ (.driveLine line level, b) :: earlier →
    bank.Closed (Board.driveLine line level b).2 ∧
      ∀ rail row, bank.row? rail = some row → row.parent ≠ rail → row.enable.line = line →
        row.enable.level true = level → bank.FoundOn row.parent ⟨b, earlier⟩

/-- A write to an enable line is read back, and nothing else changes such a line. -/
structure Obedient (good : σ → Prop) : Prop where
  lasts : ∀ row ∈ bank.table, ∀ level b, good b → good (Board.driveLine row.enable.line level b).2
  readBack : ∀ row ∈ bank.table, ∀ level b, good b →
    (Board.readLine row.enable.line (Board.driveLine row.enable.line level b).2).1 = .ok level
  apart : ∀ row ∈ bank.table, ∀ other ∈ bank.table, other.enable.line ≠ row.enable.line →
    ∀ level b, good b →
      (Board.readLine other.enable.line (Board.driveLine row.enable.line level b).2).1 =
        (Board.readLine other.enable.line b).1
  still : ∀ (call : Call) b, call.drives = none → good b →
    good (call.run b) ∧ ∀ row ∈ bank.table,
      (Board.readLine row.enable.line (call.run b)).1 = (Board.readLine row.enable.line b).1

theorem Obedient.congr {bank bank' : RailBank} {good : σ → Prop} (same : bank'.table = bank.table)
    (obeys : bank.Obedient good) : bank'.Obedient good where
  lasts row listed := obeys.lasts row (same ▸ listed)
  readBack row listed := obeys.readBack row (same ▸ listed)
  apart row listed other listed' := obeys.apart row (same ▸ listed) other (same ▸ listed')
  still call b silent fine := same ▸ obeys.still call b silent fine

end Board

def Distinct (bank : RailBank) : Prop :=
  ∀ rail row other row', bank.row? rail = some row → bank.row? other = some row' →
    row'.enable.line = row.enable.line → other = rail

theorem Distinct.congr {bank bank' : RailBank} (same : bank'.table = bank.table)
    (distinct : bank.Distinct) : bank'.Distinct := by
  intro rail row other row' hrow hrow'
  rw [row?_congr same] at hrow hrow'
  exact distinct rail row other row' hrow hrow'

def Ordered (bank : RailBank) (rails : List RailId) : Prop :=
  rails.Pairwise fun earlier later =>
    earlier ≠ later ∧ ∀ row ∈ bank.row? earlier, row.parent ≠ later

instance (bank : RailBank) (rails : List RailId) : Decidable (bank.Ordered rails) :=
  inferInstanceAs (Decidable (List.Pairwise _ _))

theorem Ordered.init {bank : RailBank} {rails others : List RailId}
    (h : bank.Ordered (rails ++ others)) : bank.Ordered rails := (List.pairwise_append.1 h).1

theorem ofTable_distinct (table : List Rail) (timing : RailTiming)
    (apart : (table.map fun row => row.enable.line).Nodup) : (ofTable table timing).Distinct := by
  intro rail row other row' hrow hrow' same
  simp only [row?, ofTable, List.getElem?_take] at hrow hrow'
  split at hrow <;> split at hrow' <;> try contradiction
  have index : other.index = rail.index := by
    have listed : other.index < (table.map fun row => row.enable.line).length := by
      rw [List.length_map]
      exact (List.getElem?_eq_some_iff.1 hrow').1
    refine (List.getElem?_inj listed apart).1 ?_
    rw [List.getElem?_map, List.getElem?_map, hrow, hrow', Option.map_some, Option.map_some, same]
  cases rail
  cases other
  exact congrArg RailId.mk index

section Tape

variable {σ : Type} [Board σ] {bank : RailBank} {tape : List (Call × σ)}

theorem Clean.still (h : bank.Clean tape) (call : Call) (b : σ) (silent : call.drives = none) :
    bank.Clean ((call, b) :: tape) := by
  intro later line level b' earlier split
  cases later with
  | nil =>
    obtain ⟨same, _⟩ := List.cons.inj split
    cases same
    cases silent
  | cons _ later => exact h later line level b' earlier (List.cons.inj split).2

theorem Clean.drive (h : bank.Clean tape) (line : Line) (level : Bool) (b : σ)
    (closed : bank.Closed (Board.driveLine line level b).2)
    (found : ∀ rail row, bank.row? rail = some row → row.parent ≠ rail → row.enable.line = line →
      row.enable.level true = level → bank.FoundOn row.parent ⟨b, tape⟩) :
    bank.Clean ((.driveLine line level, b) :: tape) := by
  intro later line' level' b' earlier split
  cases later with
  | nil =>
    obtain ⟨same, rfl⟩ := List.cons.inj split
    cases same
    exact ⟨closed, found⟩
  | cons _ later => exact h later line' level' b' earlier (List.cons.inj split).2

end Tape

/-- The rails are closed and no other than those of `up` are asserted, and so it has been after every
write. -/
structure Guarded {σ : Type} [Board σ] (bank : RailBank) (good : σ → Prop) (up : List RailId)
    (w : Watched σ) : Prop where
  good : good w.board
  bound : ∀ rail row, bank.row? rail = some row → row.Asserted w.board → rail ∈ up
  closed : bank.Closed w.board
  clean : bank.Clean w.tape

section Guard

variable {σ : Type} [Board σ] {bank : RailBank} {good : σ → Prop} {up : List RailId} {w : Watched σ}

theorem row?_mem {rail : RailId} {row : Rail} (hrow : bank.row? rail = some row) :
    row ∈ bank.table := List.mem_of_getElem? hrow

theorem Guarded.mono {others : List RailId} (h : bank.Guarded good up w) (sub : up ⊆ others) :
    bank.Guarded good others w :=
  ⟨h.good, fun rail row hrow on => sub (h.bound rail row hrow on), h.closed, h.clean⟩

theorem Obedient.asserted (obeys : bank.Obedient good) {w' : Watched σ} (quiet : Quiet w w')
    (fine : good w.board) {rail : RailId} {row : Rail} (hrow : bank.row? rail = some row)
    (on : row.Asserted w.board) : row.Asserted w'.board := by
  refine (quiet.invariant (fun w => good w.board ∧ row.Asserted w.board) ?_ ⟨fine, on⟩).2
  rintro call w silent ⟨fine, on⟩
  obtain ⟨fine', same⟩ := obeys.still call w.board silent fine
  rw [w.run_call]
  exact ⟨fine', (same row (row?_mem hrow)).trans on⟩

theorem Guarded.call (obeys : bank.Obedient good) (h : bank.Guarded good up w) (call : Call)
    (silent : call.drives = none) : bank.Guarded good up (call.run w) := by
  obtain ⟨fine, same⟩ := obeys.still call w.board silent h.good
  have kept : ∀ row ∈ bank.table, row.Asserted (call.run w.board) ↔ row.Asserted w.board := by
    intro row listed
    rw [Rail.Asserted, same row listed, Rail.Asserted]
  rw [w.run_call]
  refine ⟨fine, fun rail row hrow on => ?_, fun rail row hrow child on => ?_,
    h.clean.still call w.board silent⟩
  · exact h.bound rail row hrow ((kept row (row?_mem hrow)).1 on)
  · obtain ⟨above, habove, on'⟩ := h.closed rail row hrow child ((kept row (row?_mem hrow)).1 on)
    exact ⟨above, habove, (kept above (row?_mem habove)).2 on'⟩

theorem Guarded.quiet (obeys : bank.Obedient good) (h : bank.Guarded good up w) {w' : Watched σ}
    (quiet : Quiet w w') : bank.Guarded good up w' :=
  quiet.invariant (bank.Guarded good up) (fun call _ silent held => held.call obeys call silent) h

/-- A rail is asserted after a write just as the write has it, and another rail as before. -/
theorem asserted_driven (obeys : bank.Obedient good) (apart : bank.Distinct) {b : σ} (fine : good b)
    {rail other : RailId} {row row' : Rail} (hrow : bank.row? rail = some row)
    (hrow' : bank.row? other = some row') (on : Bool) :
    row'.Asserted (Board.driveLine row.enable.line (row.enable.level on) b).2 ↔
      if other = rail then on = true else row'.Asserted b := by
  split
  · rename_i same
    subst same
    obtain rfl : row = row' := Option.some.inj (hrow.symm.trans hrow')
    rw [Rail.Asserted, obeys.readBack row (row?_mem hrow) _ b fine, Except.ok.injEq]
    cases on <;> cases row.enable.activeLow <;> simp [Enable.level, *]
  · rename_i different
    have line : row'.enable.line ≠ row.enable.line :=
      fun same => different (apart rail row other row' hrow hrow' same)
    rw [Rail.Asserted, obeys.apart row (row?_mem hrow) row' (row?_mem hrow') line _ b fine,
      Rail.Asserted]

theorem Guarded.raise (obeys : bank.Obedient good) (apart : bank.Distinct)
    (h : bank.Guarded good up w) {rail : RailId} {row : Rail} (hrow : bank.row? rail = some row)
    (listed : rail ∈ up) (powered : row.parent ≠ rail → bank.FoundOn row.parent w ∧
      ∃ above, bank.row? row.parent = some above ∧ above.Asserted w.board) :
    bank.Guarded good up (Board.driveLine row.enable.line (row.enable.level true) w).2 := by
  let after := (Board.driveLine row.enable.line (row.enable.level true) w.board).2
  have driven : ∀ {other row'}, bank.row? other = some row' →
      (row'.Asserted after ↔ if other = rail then true = true else row'.Asserted w.board) :=
    fun hrow' => asserted_driven obeys apart h.good hrow hrow' true
  have closed : bank.Closed after := by
    intro other row' hrow' child on
    -- The parent was asserted before the write, and a write that raises a line lowers no other.
    have powered' : ∃ above, bank.row? row'.parent = some above ∧ above.Asserted w.board := by
      rw [driven hrow'] at on
      split at on
      · rename_i same
        subst same
        obtain rfl : row = row' := Option.some.inj (hrow.symm.trans hrow')
        exact (powered child).2
      · exact h.closed other row' hrow' child on
    obtain ⟨above, habove, on'⟩ := powered'
    refine ⟨above, habove, (driven habove).2 ?_⟩
    split
    · rfl
    · exact on'
  refine ⟨obeys.lasts row (row?_mem hrow) _ _ h.good, fun other row' hrow' on => ?_, closed,
    h.clean.drive _ _ _ closed fun other row' hrow' child line _ => ?_⟩
  · have on' := (driven hrow').1 on
    split at on'
    · rename_i same
      rwa [same]
    · exact h.bound other row' hrow' on'
  · obtain rfl := apart rail row other row' hrow hrow' line
    obtain rfl : row = row' := Option.some.inj (hrow.symm.trans hrow')
    exact (powered child).1

/-- Lowering the last rail of the list, which no other rail of it is powered from. -/
theorem Guarded.lower (obeys : bank.Obedient good) (apart : bank.Distinct) {rail : RailId}
    (h : bank.Guarded good (up ++ [rail]) w) (ordered : bank.Ordered (up ++ [rail])) {row : Rail}
    (hrow : bank.row? rail = some row) :
    bank.Guarded good up (Board.driveLine row.enable.line (row.enable.level false) w).2 := by
  let after := (Board.driveLine row.enable.line (row.enable.level false) w.board).2
  have driven : ∀ {other row'}, bank.row? other = some row' →
      (row'.Asserted after ↔ if other = rail then false = true else row'.Asserted w.board) :=
    fun hrow' => asserted_driven obeys apart h.good hrow hrow' false
  have stays : ∀ other row', bank.row? other = some row' → row'.Asserted after →
      other ∈ up ∧ row'.Asserted w.board := by
    intro other row' hrow' on
    rw [driven hrow'] at on
    split at on
    · cases on
    · rename_i different
      refine ⟨?_, on⟩
      simpa [different] using h.bound other row' hrow' on
  have closed : bank.Closed after := by
    intro other row' hrow' child on
    obtain ⟨listed, on⟩ := stays other row' hrow' on
    obtain ⟨above, habove, on'⟩ := h.closed other row' hrow' child on
    -- All other rails of the list come before this one, so none of them is its child.
    have spared := (((List.pairwise_append.1 ordered).2.2 other listed rail (by simp)).2 row' hrow')
    exact ⟨above, habove, (driven habove).2 (by rwa [if_neg spared])⟩
  refine ⟨obeys.lasts row (row?_mem hrow) _ _ h.good, fun other row' hrow' on => ?_, closed,
    h.clean.drive _ _ _ closed fun other row' hrow' _ line level => ?_⟩
  · exact (stays other row' hrow' on).1
  · obtain rfl := apart rail row other row' hrow hrow' line
    obtain rfl : row = row' := Option.some.inj (hrow.symm.trans hrow')
    cases low : row.enable.activeLow <;> simp [Enable.level, low] at level

/-- On a board that looks do not change, a rail is still on where it was found on. -/
theorem FoundOn.live (looks : LooksOnly σ) {rail : RailId} {b : σ} {earlier : List (Call × σ)}
    (found : bank.FoundOn rail ⟨b, earlier⟩) (j : Journal) :
    (bank.status rail (⟨b, j⟩ : Plant σ)).1 = .on := by
  obtain ⟨p, on, arrived⟩ := found
  have seen : bank.status rail p.unwatch =
      ((bank.status rail p).1, (bank.status rail p).2.unwatch) :=
    (View.unwatch σ).status () p bank rail
  have told : bank.status rail (p.unwatch.withJournal j) =
      ((bank.status rail p.unwatch).1, (bank.status rail p.unwatch).2.withJournal j) :=
    (View.journal σ).status j p.unwatch bank rail
  have same : p.board.board = b := by
    have rest := bank.status_board looks rail p.unwatch
    rw [seen] at rest
    exact rest.symm.trans (congrArg Watched.board arrived)
  rw [seen, on] at told
  rw [← same]
  exact congrArg Prod.fst told

theorem status_asserted {rail : RailId} {p : Plant σ} (on : (bank.status rail p).1 = .on) :
    ∃ row, bank.row? rail = some row ∧ row.Asserted p.board := by
  simp only [status] at on
  split at on
  · cases on
  · rename_i row hrow
    refine ⟨row, hrow, ?_⟩
    split at on
    · rename_i up
      simp only [enabled, Plant.readLine] at up
      split at up
      · rename_i high read
        rw [Rail.Asserted, read, Enable.level]
        cases high <;> cases low : row.enable.activeLow <;> simp [low] at up ⊢
      · cases up
    · cases on

end Guard

end RailBank

namespace Rig

variable {σ : Type} [Board σ] {bank : RailBank} {good : σ → Prop} {up : List RailId}
  {r : Rig (Watched σ)}

structure Guarded (bank : RailBank) (good : σ → Prop) (up : List RailId) (r : Rig (Watched σ)) :
    Prop where
  table : r.rails.table = bank.table
  board : bank.Guarded good up r.plant.board

theorem Guarded.look (obeys : bank.Obedient good) (h : r.Guarded bank good up)
    {r' : Rig (Watched σ)} (table : r'.rails.table = r.rails.table)
    (quiet : Quiet r.plant.board r'.plant.board) : r'.Guarded bank good up :=
  ⟨table.trans h.table, h.board.quiet obeys quiet⟩

theorem Guarded.mono {others : List RailId} (h : r.Guarded bank good up) (sub : up ⊆ others) :
    r.Guarded bank good others := ⟨h.table, h.board.mono sub⟩

theorem Guarded.control (obeys : bank.Obedient good) (apart : bank.Distinct)
    (h : r.Guarded bank good up) {rail : RailId} (listed : rail ∈ up) :
    (r.control rail true).2.Guarded bank good up := by
  have rows := RailBank.row?_congr h.table
  simp only [Rig.control, RailBank.control, rows, RailBank.status_congr h.table]
  split
  · exact h
  · rename_i row hrow
    split
    · have quiet := bank.status_quiet row.parent r.plant
      have looked := h.board.quiet obeys quiet
      split
      · rename_i on
        obtain ⟨above, habove, lit⟩ := RailBank.status_asserted on
        exact ⟨h.table, looked.raise obeys apart hrow listed fun _ =>
          ⟨⟨r.plant, on, rfl⟩, above, habove, obeys.asserted quiet h.board.good habove lit⟩⟩
      · exact ⟨h.table, looked⟩
    · rename_i root
      refine ⟨h.table, h.board.raise obeys apart hrow listed fun child => ?_⟩
      simp [child] at root

theorem Guarded.powerOn (obeys : bank.Obedient good) (apart : bank.Distinct)
    (h : r.Guarded bank good up) {rail : RailId} (listed : rail ∈ up) (settle timeout : Span) :
    (r.powerOn rail settle timeout).2.Guarded bank good up := by
  unfold Rig.powerOn
  split
  · exact h
  · exact h
  · have marked : (r.setState rail .turningOn).Guarded bank good up := ⟨h.table, h.board⟩
    have raised := marked.control obeys apart listed
    dsimp only
    split
    · exact ⟨raised.table, raised.board⟩
    · let settled : Rig (Watched σ) :=
        if settle = Span.zero then ((r.setState rail .turningOn).control rail true).2
        else ((r.setState rail .turningOn).control rail true).2.sleep settle
      have rests : settled.Guarded bank good up := by
        simp only [settled]
        split
        · exact raised
        · exact raised.look obeys rfl (.one _ (.sleep settle) rfl)
      obtain ⟨state, rails, _⟩ := settled.confirmOn_rails rail timeout
      exact rests.look obeys (by rw [rails]; rfl) (settled.confirmOn_quiet rail timeout)

theorem Guarded.raise (obeys : bank.Obedient good) (apart : bank.Distinct) (timeout : Span)
    (steps : List Step) (h : r.Guarded bank good up) (listed : railsOf steps ⊆ up) :
    (Rig.raise timeout steps r).2.Guarded bank good up := by
  induction steps generalizing r with
  | nil => exact h
  | cons step rest ih =>
    obtain ⟨first, others⟩ := List.cons_subset.1 listed
    have raised := h.powerOn obeys apart first step.settle timeout
    simp only [Rig.raise]
    split
    · exact ⟨raised.table, raised.board⟩
    · exact ih raised others

theorem Guarded.sequenceOnWithin (obeys : bank.Obedient good) (apart : bank.Distinct)
    (h : r.Guarded bank good up) (steps : List Step) (timeout : Span) (listed : railsOf steps ⊆ up) :
    (r.sequenceOnWithin steps timeout).2.Guarded bank good up := by
  have raised := h.raise obeys apart timeout steps listed
  simp only [Rig.sequenceOnWithin]
  split
  · exact raised
  · exact raised.look obeys (verify_within steps _).table (verify_quiet steps _)

theorem Guarded.powerOff (obeys : bank.Obedient good) (apart : bank.Distinct) {rail : RailId}
    (ordered : bank.Ordered (up ++ [rail])) (h : r.Guarded bank good (up ++ [rail])) :
    (r.powerOff rail).2.Guarded bank good up := by
  have rows := RailBank.row?_congr h.table rail
  have rows' : (r.setState rail .off).rails.row? rail = bank.row? rail := rows
  unfold Rig.powerOff
  rw [rows]
  split
  · rename_i missing
    refine ⟨h.table, h.board.good, fun other row hrow on => ?_, h.board.closed, h.board.clean⟩
    have different : other ≠ rail := by
      rintro rfl
      rw [hrow] at missing
      cases missing
    simpa [different] using h.board.bound other row hrow on
  · rename_i row hrow
    simp only [Rig.control, RailBank.control, rows', hrow, Bool.false_and, Bool.false_eq_true,
      ↓reduceIte]
    exact ⟨h.table, h.board.lower obeys apart ordered hrow⟩

theorem Guarded.lower (obeys : bank.Obedient good) (apart : bank.Distinct) (steps : List Step)
    (ordered : bank.Ordered (up ++ (railsOf steps).reverse))
    (h : r.Guarded bank good (up ++ (railsOf steps).reverse)) :
    (Rig.lower steps r).2.Guarded bank good up := by
  -- The first step to be lowered stands last in the list, so each step shortens the list by its end.
  induction steps generalizing r with
  | nil => simpa [Rig.lower] using h
  | cons step rest ih =>
    rw [railsOf_cons, List.reverse_cons, ← List.append_assoc] at ordered h
    exact ih ordered.init (h.powerOff obeys apart ordered)

theorem Guarded.sequenceOff (obeys : bank.Obedient good) (apart : bank.Distinct) (steps : List Step)
    (ordered : bank.Ordered (up ++ railsOf steps)) (h : r.Guarded bank good (up ++ railsOf steps)) :
    (r.sequenceOff steps).2.Guarded bank good up := by
  have same : (railsOf steps.reverse).reverse = railsOf steps := by
    rw [railsOf_reverse, List.reverse_reverse]
  rw [← same] at ordered h
  exact h.lower obeys apart steps.reverse ordered

end Rig

end BoardWarden
