import BoardWarden.Proofs.Bench.EnableLines
import BoardWarden.Proofs.Rail.Readings
import BoardWarden.Proofs.Rail.Sequence

set_option autoImplicit false

namespace BoardWarden

variable {σ : Type} [Board σ]

def Rail.release (row : Rail) : Call := .driveLine row.enable.line (row.enable.level false)

theorem Enable.level_apart (e : Enable) : e.level true ≠ e.level false := by
  cases active : e.activeLow <;> simp [level, active]

namespace RailBank

def releases (bank : RailBank) (rails : List RailId) : List Call :=
  rails.filterMap fun rail => (bank.row? rail).map Rail.release

theorem releases_cons (bank : RailBank) (rail : RailId) (rest : List RailId) :
    bank.releases (rail :: rest) =
      ((bank.row? rail).map Rail.release).toList ++ bank.releases rest := by
  cases listed : bank.row? rail <;> simp [releases, listed]

theorem releases_append (bank : RailBank) (rails others : List RailId) :
    bank.releases (rails ++ others) = bank.releases rails ++ bank.releases others :=
  List.filterMap_append

theorem releases_congr {bank bank' : RailBank} (same : bank'.table = bank.table)
    (rails : List RailId) : bank'.releases rails = bank.releases rails := by
  simp only [releases, row?_congr same]

theorem releases_writes (bank : RailBank) (rails : List RailId) :
    Call.writes (bank.releases rails) = bank.writes false rails := by
  induction rails with
  | nil => rfl
  | cons rail rest ih =>
    rw [releases_cons, writes_cons, Call.writes_append, ih, write?]
    cases bank.row? rail <;> rfl

theorem Distinct.unasserted {bank : RailBank} (distinct : bank.Distinct) (rails : List RailId)
    {rail : RailId} {row : Rail} (hrow : bank.row? rail = some row) :
    (row.enable.line, row.enable.level true) ∉ bank.writes false rails := by
  intro listed
  obtain ⟨other, _, row', hrow', same⟩ := mem_writes.1 listed
  obtain ⟨line, level⟩ := Prod.mk.inj same
  obtain rfl := distinct rail row other row' hrow hrow' line.symm
  cases hrow.symm.trans hrow'
  exact row.enable.level_apart level

def DistinctAmong (bank : RailBank) (rails : List RailId) : Prop :=
  ∀ rail ∈ rails, ∀ other ∈ rails, ∀ row row', bank.row? rail = some row →
    bank.row? other = some row' → row'.enable.line = row.enable.line → other = rail

theorem Distinct.among {bank : RailBank} (distinct : bank.Distinct) (rails : List RailId) :
    bank.DistinctAmong rails :=
  fun rail _ other _ row row' hrow hrow' => distinct rail row other row' hrow hrow'

/-- On a `good` board, releasing one of the rails leaves the enable lines of the others as they
read. -/
structure Spares (bank : RailBank) (rails : List RailId) (good : σ → Prop) : Prop where
  lasts : ∀ rail ∈ rails, ∀ row, bank.row? rail = some row → ∀ b, good b →
    good (row.release.run b)
  apart : ∀ rail ∈ rails, ∀ row, bank.row? rail = some row → ∀ other ∈ bank.table,
    other.enable.line ≠ row.enable.line → ∀ b, good b →
      (Board.readLine other.enable.line (row.release.run b)).1 =
        (Board.readLine other.enable.line b).1

structure Yields (bank : RailBank) (rails : List RailId) (good : σ → Prop) : Prop
    extends Spares bank rails good where
  readBack : ∀ rail ∈ rails, ∀ row, bank.row? rail = some row → ∀ b, good b →
    (Board.readLine row.enable.line (row.release.run b)).1 = .ok (row.enable.level false)

theorem Obedient.yields {bank : RailBank} {good : σ → Prop} (obeys : bank.Obedient good)
    (rails : List RailId) : bank.Yields rails good where
  lasts _ _ row hrow := obeys.lasts row (row?_mem hrow) _
  apart _ _ row hrow other listed different := obeys.apart row (row?_mem hrow) other listed different _
  readBack _ _ row hrow := obeys.readBack row (row?_mem hrow) _

def Lowered (bank : RailBank) (rails : List RailId) (b : σ) : Prop :=
  ∀ rail ∈ rails, ∀ row, bank.row? rail = some row →
    (Board.readLine row.enable.line b).1 = .ok (row.enable.level false)

theorem Lowered.agree {bank : RailBank} {rails : List RailId} {b b' : σ}
    (h : bank.Lowered rails b) (same : Agree b b') : bank.Lowered rails b' :=
  fun rail listed row hrow => (same.line row.enable.line).trans (h rail listed row hrow)

theorem Lowered.off {bank : RailBank} {rails : List RailId} {p : Plant σ}
    (h : bank.Lowered rails p.board) {rail : RailId} (listed : rail ∈ rails) :
    (bank.status rail p).1 = .off := by
  simp only [status]
  split
  · rfl
  · rename_i row hrow
    have read := h rail listed row hrow
    have down : (enabled row p).1 = false := by
      simp only [enabled, Plant.readLine, read, Enable.level]
      cases row.enable.activeLow <;> rfl
    rw [if_neg (by simp [down])]

section Readings

variable {bank : RailBank} {rails : List RailId} {good : σ → Prop}

theorem releases_keep (rails : List RailId) {I : σ → Prop}
    (step : ∀ rail ∈ rails, ∀ row, bank.row? rail = some row → ∀ b, I b → I (row.release.run b))
    {part : List RailId} (sub : part ⊆ rails) {b : σ} (first : I b) :
    I ((bank.releases part).foldl Call.run b) := by
  induction part generalizing b with
  | nil => exact first
  | cons rail rest ih =>
    obtain ⟨listed, others⟩ := List.cons_subset.1 sub
    rw [releases_cons, List.foldl_append]
    cases hrow : bank.row? rail with
    | none => exact ih others first
    | some row => exact ih others (step rail listed row hrow b first)

theorem Spares.lasting (spares : bank.Spares rails good) {part : List RailId} (sub : part ⊆ rails)
    {b : σ} (fine : good b) : good ((bank.releases part).foldl Call.run b) :=
  releases_keep rails spares.lasts sub fine

theorem Spares.reading (spares : bank.Spares rails good) {part : List RailId} (sub : part ⊆ rails)
    {other : Rail} (listed : other ∈ bank.table)
    (apart : ∀ rail ∈ part, ∀ row, bank.row? rail = some row →
      other.enable.line ≠ row.enable.line) {b : σ} (fine : good b) :
    (Board.readLine other.enable.line ((bank.releases part).foldl Call.run b)).1 =
      (Board.readLine other.enable.line b).1 := by
  refine (releases_keep part (I := fun b' => good b' ∧
    (Board.readLine other.enable.line b').1 = (Board.readLine other.enable.line b).1)
    (fun rail tried row hrow b' kept => ?_) (List.Subset.refl part) ⟨fine, rfl⟩).2
  exact ⟨spares.lasts rail (sub tried) row hrow b' kept.1,
    (spares.apart rail (sub tried) row hrow other listed (apart rail tried row hrow) b' kept.1).trans
      kept.2⟩

theorem Yields.lowered (yields : bank.Yields rails good) (distinct : bank.DistinctAmong rails)
    {part : List RailId} (sub : part ⊆ rails) {b : σ} (fine : good b) :
    bank.Lowered part ((bank.releases part).foldl Call.run b) := by
  induction part generalizing b with
  | nil => exact fun _ never => by cases never
  | cons first rest ih =>
    obtain ⟨listed, others⟩ := List.cons_subset.1 sub
    intro rail tried row hrow
    rw [releases_cons, List.foldl_append]
    by_cases later : rail ∈ rest
    · refine ih others ?_ rail later row hrow
      cases hfirst : bank.row? first with
      | none => exact fine
      | some above => exact yields.lasts first listed above hfirst b fine
    · -- The last release of the rail is this one, and no other rail has its line.
      obtain rfl : rail = first := by simpa [later] using tried
      rw [hrow]
      refine (yields.reading others (row?_mem hrow) (fun other tried' row' hrow' same => later ?_)
        (yields.lasts rail listed row hrow b fine)).trans
        (yields.readBack rail listed row hrow b fine)
      exact distinct rail listed other (others tried') row row' hrow hrow' same.symm ▸ tried'

theorem Yields.reread (yields : bank.Yields rails good) (distinct : bank.DistinctAmong rails)
    {part : List RailId} (sub : part ⊆ rails) {b : σ} (fine : good b)
    (lowered : bank.Lowered part b) {row : Rail} (listed : row ∈ bank.table) :
    (Board.readLine row.enable.line ((bank.releases part).foldl Call.run b)).1 =
      (Board.readLine row.enable.line b).1 := by
  by_cases written : ∃ rail ∈ part, ∃ row', bank.row? rail = some row' ∧
      row.enable.line = row'.enable.line
  · obtain ⟨rail, tried, row', hrow', same⟩ := written
    rw [same]
    exact (yields.lowered distinct sub fine rail tried row' hrow').trans
      (lowered rail tried row' hrow').symm
  · exact yields.reading sub listed
      (fun rail tried row' hrow' same => written ⟨rail, tried, row', hrow', same⟩) fine

/-- Where it changes nothing to write to a line what it reads, rails that read as released are
released again without any change. -/
theorem Lowered.again (spares : bank.Spares rails good)
    (rewritten : ∀ rail ∈ rails, ∀ row, bank.row? rail = some row → ∀ b, good b →
      (Board.readLine row.enable.line b).1 = .ok (row.enable.level false) →
        Agree b (row.release.run b))
    {part : List RailId} (sub : part ⊆ rails) {b : σ} (fine : good b)
    (lowered : bank.Lowered rails b) : Agree b ((bank.releases part).foldl Call.run b) := by
  refine (releases_keep rails (I := fun b' => good b' ∧ Agree b b')
    (fun rail listed row hrow b' kept => ?_) sub ⟨fine, .refl b⟩).2
  have read := lowered.agree kept.2 rail listed row hrow
  exact ⟨spares.lasts rail listed row hrow b' kept.1,
    kept.2.trans (rewritten rail listed row hrow b' kept.1 read)⟩

end Readings

end RailBank

namespace Rig

open RailBank (Within Down)

theorem powerOff_after (r : Rig σ) (rail : RailId) :
    (r.powerOff rail).2.plant =
      r.plant.after ((r.rails.row? rail).map Rail.release).toList [] := by
  unfold powerOff
  split
  · rename_i missing
    rw [missing]
    rfl
  · rename_i row hrow
    have hrow' : (r.rails.setState rail .off).row? rail = some row := hrow
    simp only [control, RailBank.control, setState, hrow', hrow, Bool.false_and,
      Bool.false_eq_true, ↓reduceIte]
    rfl

theorem lower_after (steps : List Step) (r : Rig σ) :
    (lower steps r).2.plant = r.plant.after (r.rails.releases (railsOf steps)) [] := by
  induction steps generalizing r with
  | nil => rfl
  | cons step rest ih =>
    have others := ih (r.powerOff step.rail).2
    rw [RailBank.releases_congr (r.powerOff_within step.rail).table, powerOff_after,
      Plant.after_after] at others
    rw [railsOf_cons, RailBank.releases_cons]
    exact others

theorem sequenceOff_after (r : Rig σ) (steps : List Step) :
    (r.sequenceOff steps).2.plant = r.plant.after (r.rails.releases (railsOf steps).reverse) [] := by
  rw [← railsOf_reverse]
  exact lower_after steps.reverse r

theorem sequenceOff_board (r : Rig σ) (steps : List Step) : (r.sequenceOff steps).2.plant.board =
    (r.rails.releases (railsOf steps).reverse).foldl Call.run r.plant.board :=
  congrArg Plant.board (r.sequenceOff_after steps)

theorem sequenceOff_lowered {r : Rig σ} {steps : List Step} {good : σ → Prop}
    (yields : r.rails.Yields (railsOf steps) good)
    (distinct : r.rails.DistinctAmong (railsOf steps)) (fine : good r.plant.board) :
    good (r.sequenceOff steps).2.plant.board ∧
      r.rails.Lowered (railsOf steps) (r.sequenceOff steps).2.plant.board := by
  have reversed : (railsOf steps).reverse ⊆ railsOf steps := fun _ => List.mem_reverse.1
  rw [sequenceOff_board]
  exact ⟨yields.lasting reversed fine, fun rail listed =>
    yields.lowered distinct reversed fine rail (List.mem_reverse.2 listed)⟩

theorem powerOff_again {r : Rig σ} {rail : RailId} (down : r.rails.Down [rail]) :
    (r.powerOff rail).2.rails = r.rails := by
  unfold powerOff
  split
  · rfl
  · rename_i row hrow
    cases entered : r.rails.state? rail with
    | none => exact r.rails.setState_missing rail .off entered
    | some state =>
      refine r.rails.setState_same rail .off (down rail List.mem_cons_self fun other listed => ?_)
      obtain rfl := List.mem_singleton.1 listed
      simp [hrow, entered]

theorem lower_again {steps : List Step} {r : Rig σ} (down : r.rails.Down (railsOf steps)) :
    (lower steps r).2.rails = r.rails := by
  induction steps generalizing r with
  | nil => rfl
  | cons step rest ih =>
    have first : r.rails.Down [step.rail] := down.sub (by simp)
    have head := powerOff_again first
    refine (ih ?_).trans head
    rw [head]
    exact down.sub (railsOf_tail step rest)

theorem sequenceOff_again {r : Rig σ} {steps : List Step} (down : r.rails.Down (railsOf steps)) :
    (r.sequenceOff steps).2.rails = r.rails :=
  lower_again (down.sub (by simp [railsOf_reverse]))

theorem lower_append (steps others : List Step) (r : Rig σ) :
    lower (steps ++ others) r =
      (match (lower steps r).1 with
        | .error error => .error error
        | .ok () => (lower others (lower steps r).2).1, (lower others (lower steps r).2).2) := by
  induction steps generalizing r with
  | nil => rfl
  | cons step rest ih =>
    simp only [List.cons_append, lower, ih]
    cases (r.powerOff step.rail).1 <;> rfl

def loweringAt (r : Rig σ) (step : Step) (after : List Step) : Except RailError Unit :=
  ((r.sequenceOff after).2.powerOff step.rail).1

theorem sequenceOff_cons (r : Rig σ) (step : Step) (rest : List Step) :
    (r.sequenceOff (step :: rest)).1 =
      match (r.sequenceOff rest).1 with
      | .error error => .error error
      | .ok () => r.loweringAt step rest := by
  simp only [sequenceOff, loweringAt, List.reverse_cons, lower_append, lower]
  cases (lower rest.reverse r).1 with
  | error error => rfl
  | ok => cases ((lower rest.reverse r).2.powerOff step.rail).1 <;> rfl

theorem sequenceOff_ok {r : Rig σ} {steps : List Step} :
    (r.sequenceOff steps).1 = .ok () ↔ ∀ before step after, steps = before ++ step :: after →
      r.loweringAt step after = .ok () := by
  induction steps with
  | nil => exact iff_of_true rfl fun before step after split => by simp at split
  | cons first rest ih =>
    have whole : (r.sequenceOff (first :: rest)).1 = .ok () ↔
        (r.sequenceOff rest).1 = .ok () ∧ r.loweringAt first rest = .ok () := by
      rw [sequenceOff_cons]
      cases (r.sequenceOff rest).1 <;> simp
    rw [whole, ih]
    constructor
    · rintro ⟨later, own⟩ before step after split
      cases before with
      | nil =>
        obtain ⟨rfl, rfl⟩ := List.cons.inj split
        exact own
      | cons _ before => exact later before step after (List.cons.inj split).2
    · intro all
      exact ⟨fun before step after split => all (first :: before) step after (split ▸ rfl),
        all [] first rest rfl⟩

theorem sequenceOff_error {r : Rig σ} {steps : List Step} {error : RailError} :
    (r.sequenceOff steps).1 = .error error ↔ ∃ before step after,
      steps = before ++ step :: after ∧ (r.sequenceOff after).1 = .ok () ∧
        r.loweringAt step after = .error error := by
  induction steps with
  | nil => exact iff_of_false (fun never => by cases never) fun ⟨_, _, _, split, _⟩ => by simp at split
  | cons first rest ih =>
    have whole : (r.sequenceOff (first :: rest)).1 = .error error ↔
        (r.sequenceOff rest).1 = .error error ∨
          (r.sequenceOff rest).1 = .ok () ∧ r.loweringAt first rest = .error error := by
      rw [sequenceOff_cons]
      cases (r.sequenceOff rest).1 <;> simp
    rw [whole, ih]
    constructor
    · rintro (⟨before, step, after, rfl, later, failed⟩ | ⟨later, failed⟩)
      · exact ⟨first :: before, step, after, rfl, later, failed⟩
      · exact ⟨[], first, rest, rfl, later, failed⟩
    · rintro ⟨before, step, after, split, later, failed⟩
      cases before with
      | nil =>
        obtain ⟨rfl, rfl⟩ := List.cons.inj split
        exact .inr ⟨later, failed⟩
      | cons _ before => exact .inl ⟨before, step, after, (List.cons.inj split).2, later, failed⟩

/-- Lowering a sequence calls for the release of each of its rails that the table holds, last step
first, and for nothing else; these rails are entered as off, and of the steps that fail the last one
counts. Where releases are read back and the rails do not share a line, all are off afterwards, and
to lower them once more changes no entry and no line. -/
theorem sequenceOff_outcome (r : Rig σ) (steps : List Step) :
    let done := r.sequenceOff steps
    let again := done.2.sequenceOff steps
    (r.calls fun r => r.sequenceOff steps) = r.rails.releases (railsOf steps).reverse ∧
      (r.rails.Distinct → ∀ rail row, r.rails.row? rail = some row →
        (row.enable.line, row.enable.level true) ∉ r.writes fun r => r.sequenceOff steps) ∧
      done.2.rails.Down (railsOf steps) ∧ Within (railsOf steps) r.rails done.2.rails ∧
      (done.1 = .ok () ↔ ∀ before step after, steps = before ++ step :: after →
        r.loweringAt step after = .ok ()) ∧
      (∀ error, done.1 = .error error ↔ ∃ before step after, steps = before ++ step :: after ∧
        (r.sequenceOff after).1 = .ok () ∧ r.loweringAt step after = .error error) ∧
      again.2.rails = done.2.rails ∧
      ∀ good : σ → Prop, r.rails.Yields (railsOf steps) good →
        r.rails.DistinctAmong (railsOf steps) → good r.plant.board →
          (∀ rail ∈ railsOf steps, (done.2.status rail).1 = .off) ∧
          (∀ row ∈ r.rails.table, (Board.readLine row.enable.line again.2.plant.board).1 =
            (Board.readLine row.enable.line done.2.plant.board).1) ∧
          ((∀ rail ∈ railsOf steps, ∀ row, r.rails.row? rail = some row → ∀ b, good b →
              (Board.readLine row.enable.line b).1 = .ok (row.enable.level false) →
                Agree b (row.release.run b)) →
            Agree done.2.plant.board again.2.plant.board) := by
  intro done again
  have seen := r.watch.sequenceOff_after steps
  have calls : (r.calls fun r => r.sequenceOff steps) =
      r.rails.releases (railsOf steps).reverse := calls_of_after seen
  have within := r.sequenceOff_within steps
  have down := r.sequenceOff_down steps
  refine ⟨calls, fun distinct rail row hrow => ?_, down, within, sequenceOff_ok,
    fun error => sequenceOff_error, sequenceOff_again down, fun good yields distinct fine => ?_⟩
  · rw [Rig.writes, calls, RailBank.releases_writes]
    exact distinct.unasserted _ hrow
  · obtain ⟨fine', lowered⟩ := sequenceOff_lowered yields distinct fine
    have reversed : (railsOf steps).reverse ⊆ railsOf steps := fun _ => List.mem_reverse.1
    have board : again.2.plant.board = (r.rails.releases (railsOf steps).reverse).foldl Call.run
        done.2.plant.board := by
      rw [← RailBank.releases_congr within.table]
      exact done.2.sequenceOff_board steps
    rw [board]
    refine ⟨fun rail listed => ?_, fun row listed => ?_, fun rewritten => ?_⟩
    · have same := RailBank.status_congr within.table rail done.2.plant
      exact (congrArg Prod.fst same).trans (lowered.off listed)
    · exact yields.reread distinct reversed fine' (fun rail tried => lowered rail (reversed tried))
        listed
    · exact lowered.again yields.toSpares rewritten reversed fine'

end Rig

namespace Bench

theorem drive_same (b : Bench) (line : Line) : b.drive (b.level line) line = b := by
  have same : b.lines.modify line.index (fun driven => driven.drive (b.level line) b.time) =
      b.lines := by
    refine Array.ext_getElem? fun i => ?_
    rw [Array.getElem?_modify]
    split
    · rename_i index
      subst index
      cases listed : b.lines[line.index]? with
      | none => rfl
      | some driven => simp [Bench.level, listed, Driven.drive]
    · rfl
  simp only [drive, same]

theorem Free.rewritten {b : Bench} {line : Line} (h : b.Free line) {level : Bool}
    (read : b.read line = .ok level) : Agree b (b.write line level).2 := by
  obtain rfl : b.level line = level := Except.ok.inj (h.read.symm.trans read)
  rw [h.write, drive_same]
  exact ⟨fun _ => rfl, fun _ => rfl⟩

end Bench

namespace Carrier

def stranded : Rig Bench := (dropping.sequenceOnWithin ascent (Span.ofMillis 50)).2

theorem stranded_table : stranded.rails.table = rails :=
  (dropping.sequenceOnWithin_within ascent (Span.ofMillis 50)).table

end Carrier

theorem Carrier.stranded_descends :
    let steps := ascent ++ [⟨⟨200⟩, Span.zero⟩]
    let done := stranded.sequenceOff steps
    stranded.rails.state? ⟨1⟩ = some .fault ∧
      (stranded.writes fun r => r.sequenceOff steps) = [(⟨4⟩, false), (⟨1⟩, false), (⟨0⟩, false)] ∧
      done.1 = .error (.unknown ⟨200⟩) ∧ (∀ rail ∈ railsOf steps, (done.2.status rail).1 = .off) ∧
      (done.2.sequenceOff steps).2.rails = done.2.rails ∧
      Agree done.2.plant.board (done.2.sequenceOff steps).2.plant.board := by
  intro steps done
  have distinct : stranded.rails.Distinct :=
    (RailBank.ofTable_distinct rails RailTiming.builtIn (by decide)).congr stranded_table
  have yields : stranded.rails.Yields (railsOf steps) (Bench.Wired rails) :=
    ((Bench.wired_obedient rails RailTiming.builtIn).congr stranded_table).yields _
  obtain ⟨calls, _, _, _, _, failed, kept, lowered⟩ := stranded.sequenceOff_outcome steps
  obtain ⟨off, _, same⟩ := lowered (Bench.Wired rails) yields (distinct.among _) (by decide +kernel)
  refine ⟨by decide +kernel, ?_, (failed _).2 ⟨ascent, ⟨⟨200⟩, Span.zero⟩, [], rfl, rfl, ?_⟩, off, kept,
    same fun rail _ row hrow b wired read => ?_⟩
  · rw [Rig.writes, calls]
    decide +kernel
  · decide +kernel
  · have listed : row ∈ rails := stranded_table ▸ RailBank.row?_mem hrow
    exact (wired row listed).rewritten read

end BoardWarden
