import BoardWarden.Proofs.Rail.Book
import BoardWarden.Proofs.Rail.Work

set_option autoImplicit false

namespace BoardWarden

variable {σ : Type} [Board σ]

def Lit (row : Rail) (b : σ) : Prop :=
  let look := RailBank.enabled row (⟨b, Journal.fresh⟩ : Plant σ)
  look.1 = true ∧ (RailBank.confirmed row look.2).1 = true

namespace RailBank

theorem confirmed_congr (row : Rail) (p q : Plant σ) (h : p.board = q.board) :
    (confirmed row p).1 = (confirmed row q).1 := by
  simp only [confirmed, Plant.readMillivolts, Plant.readLine, h]
  split <;> rfl

theorem status_on_iff (b : RailBank) (rail : RailId) (row : Rail) (p : Plant σ)
    (h : b.row? rail = some row) : (b.status rail p).1 = .on ↔ Lit row p.board := by
  let look := enabled row (⟨p.board, Journal.fresh⟩ : Plant σ)
  have enable : (enabled row p).1 = look.1 := rfl
  have feedback : (confirmed row (enabled row p).2).1 = (confirmed row look.2).1 :=
    confirmed_congr row _ _ rfl
  change _ ↔ look.1 = true ∧ (confirmed row look.2).1 = true
  rw [← enable, ← feedback]
  simp only [status, h]
  split
  · rename_i up
    split
    · rename_i confirms
      simp [up, confirms]
    · rename_i lost
      simp [up, lost]
  · rename_i down
    simp [down]

end RailBank

structure Supply where
  table : List Rail
  timing : RailTiming
  rail : RailId
  timeout : Span

namespace Supply

/-- A board that is `good`, and that stays so, always confirms the power of the rail. -/
structure Steady (s : Supply) (row : Rail) (good : σ → Prop) : Prop where
  listed : s.table[s.rail.index]? = some row
  /-- No other rail has the same enable line. -/
  alone : ∀ i other, s.table[i]? = some other → other.enable.line = row.enable.line →
    i = s.rail.index
  still : ∀ (call : Call) b, call.drives = none → good b →
    good (call.run b) ∧ (Lit row b → Lit row (call.run b))
  driven : ∀ other ∈ s.table, ∀ level b, good b →
    good (Board.driveLine other.enable.line level b).2 ∧
      (other.enable.line ≠ row.enable.line ∨ level = row.enable.level true → Lit row b →
        Lit row (Board.driveLine other.enable.line level b).2)
  /-- Raising the rail succeeds. -/
  confirms : ∀ r : Rig σ, r.rails.table = s.table → r.rails.timing = s.timing →
    good r.plant.board → (r.rails.state? s.rail).isSome →
    (r.powerOn s.rail Span.zero s.timeout).1 = .ok ()

structure Fed (s : Supply) (row : Rail) (good : σ → Prop) (r : Rig σ) : Prop where
  table : r.rails.table = s.table
  timing : r.rails.timing = s.timing
  entry : (r.rails.state? s.rail).isSome
  good : good r.plant.board
  lit : r.rails.state? s.rail = some .on → Lit row r.plant.board

variable {s : Supply} {row : Rail} {good : σ → Prop}

theorem Fed.row_eq (steady : s.Steady row good) {r : Rig σ} (h : s.Fed row good r) :
    r.rails.row? s.rail = some row := by
  rw [RailBank.row?, h.table]
  exact steady.listed

theorem Fed.live (steady : s.Steady row good) {r : Rig σ} (h : s.Fed row good r)
    (on : r.rails.state? s.rail = some .on) : (r.status s.rail).1 = .on :=
  (r.rails.status_on_iff s.rail row r.plant (h.row_eq steady)).2 (h.lit on)

theorem quiet_lit (still : ∀ (call : Call) b, call.drives = none → good b →
      good (call.run b) ∧ (Lit row b → Lit row (call.run b)))
    {b b' : σ} (quiet : Quiet b b') (fine : good b) (lit : Lit row b) : good b' ∧ Lit row b' :=
  quiet.invariant (fun b => good b ∧ Lit row b)
    (fun call b silent ⟨fine, lit⟩ =>
      ⟨(still call b silent fine).1, (still call b silent fine).2 lit⟩) ⟨fine, lit⟩

theorem Steady.quiet (steady : s.Steady row good) {b b' : σ} (quiet : Quiet b b') (fine : good b)
    (lit : Lit row b) : good b' ∧ Lit row b' :=
  quiet_lit steady.still quiet fine lit

theorem Fed.quiet (steady : s.Steady row good) {r : Rig σ} (h : s.Fed row good r) (p : Plant σ)
    (quiet : Quiet r.plant.board p.board) : s.Fed row good { r with plant := p } := by
  have kept := quiet.invariant
    (fun b => good b ∧ (r.rails.state? s.rail = some .on → Lit row b))
    (fun call b still ⟨fine, lit⟩ =>
      ⟨(steady.still call b still fine).1, fun on => (steady.still call b still fine).2 (lit on)⟩)
    ⟨h.good, h.lit⟩
  exact ⟨h.table, h.timing, h.entry, kept.1, kept.2⟩

theorem Fed.setState {r : Rig σ} (h : s.Fed row good r) (rail : RailId) (state : RailState)
    (live : rail = s.rail → state = .on → Lit row r.plant.board) :
    s.Fed row good (r.setState rail state) where
  table := h.table
  timing := h.timing
  entry := by
    rw [Rig.setState_rails, RailBank.state?_setState]
    split
    · simpa using h.entry
    · exact h.entry
  good := h.good
  lit on := by
    rw [Rig.setState_rails, RailBank.state?_setState] at on
    split at on
    · rename_i same
      refine live same ?_
      obtain ⟨_, _, rfl⟩ := Option.map_eq_some_iff.1 on
      rfl
    · exact h.lit on

theorem Fed.drive (steady : s.Steady row good) {r : Rig σ} (h : s.Fed row good r) (rail : RailId)
    (other : Rail) (on : Bool) (hrow : r.rails.row? rail = some other)
    (spared : rail = s.rail → on = false → r.rails.state? s.rail ≠ some .on) :
    s.Fed row good { r with plant := (RailBank.drive rail other on r.plant).2 } := by
  rw [RailBank.row?, h.table] at hrow
  obtain ⟨fine, kept⟩ := steady.driven other (List.mem_of_getElem? hrow) (other.enable.level on)
    r.plant.board h.good
  refine ⟨h.table, h.timing, h.entry, fine, fun entered => kept ?_ (h.lit entered)⟩
  by_cases same : rail = s.rail
  · subst same
    rw [steady.listed] at hrow
    cases hrow
    cases on with
    | true => exact .inr rfl
    | false => exact absurd entered (spared rfl rfl)
  · refine .inl fun line => same ?_
    have index := steady.alone rail.index other hrow line
    cases rail
    exact congrArg RailId.mk index

theorem Fed.control (steady : s.Steady row good) {r : Rig σ} (h : s.Fed row good r) (rail : RailId)
    (on : Bool) (spared : rail = s.rail → on = false → r.rails.state? s.rail ≠ some .on) :
    s.Fed row good (r.control rail on).2 := by
  simp only [Rig.control, RailBank.control]
  split
  · exact h
  · rename_i other hrow
    have looked := h.quiet steady _ (r.rails.status_quiet other.parent r.plant)
    split
    · split
      · exact looked.drive steady rail other on hrow spared
      · exact looked
    · exact h.drive steady rail other on hrow spared

theorem Fed.confirmOn (steady : s.Steady row good) {r : Rig σ} (h : s.Fed row good r)
    (rail : RailId) (timeout : Span) : s.Fed row good (r.confirmOn rail timeout).2 := by
  let deadline := r.plant.now.after timeout
  let waited := Rig.awaitOn rail deadline (deadline.micros - r.plant.now.micros) r
  have fed : s.Fed row good waited := by
    have same : waited = { r with plant := waited.plant } := by
      rw [← Rig.awaitOn_rails rail deadline (deadline.micros - r.plant.now.micros) r]
    rw [same]
    exact h.quiet steady _ (Rig.awaitOn_quiet rail deadline _ r)
  have looked := fed.quiet steady _ (waited.rails.status_quiet rail waited.plant)
  simp only [Rig.confirmOn]
  split
  · rename_i live
    refine Fed.quiet steady (Fed.setState looked rail .on fun same _ => ?_) _ .none
    subst same
    have lit := (waited.rails.status_on_iff s.rail row waited.plant (fed.row_eq steady)).1 live
    exact (steady.quiet (waited.rails.status_quiet s.rail waited.plant) fed.good lit).2
  · have marked := Fed.setState looked rail .pgTimeout fun _ never => by cases never
    have read : s.Fed row good (((waited.status rail).2.setState rail .pgTimeout).voltage rail).2 :=
      marked.quiet steady _ (RailBank.voltage_quiet _ rail _)
    exact read.quiet steady _ .none

theorem Fed.powerOn (steady : s.Steady row good) {r : Rig σ} (h : s.Fed row good r) (rail : RailId)
    (settle timeout : Span) : s.Fed row good (r.powerOn rail settle timeout).2 := by
  unfold Rig.powerOn
  split
  · exact h
  · exact h
  · have marked := h.setState rail .turningOn fun _ never => by cases never
    have raised := marked.control steady rail true fun _ never => by cases never
    dsimp only
    split
    · exact Fed.quiet steady (raised.setState rail .turnOnFailed fun _ never => by cases never) _
        .none
    · refine Fed.confirmOn steady ?_ rail timeout
      split
      · exact raised
      · exact raised.quiet steady _ (.one _ (.sleep settle) rfl)

theorem Fed.powerOff (steady : s.Steady row good) {r : Rig σ} (h : s.Fed row good r)
    (rail : RailId) : s.Fed row good (r.powerOff rail).2 := by
  unfold Rig.powerOff
  split
  · exact h
  · have marked := h.setState rail .off fun _ never => by cases never
    refine marked.control steady rail false fun same _ on => ?_
    rw [Rig.setState_rails, RailBank.state?_setState, if_pos same] at on
    obtain ⟨_, _, never⟩ := Option.map_eq_some_iff.1 on
    cases never

theorem Fed.work (steady : s.Steady row good) {r r' : Rig σ} (h : s.Fed row good r)
    (work : Work r r') : s.Fed row good r' := by
  induction work with
  | rest => exact h
  | look p _ quiet ih => exact ih.quiet steady p quiet
  | raise rail settle timeout _ ih => exact ih.powerOn steady rail settle timeout
  | lower rail _ ih => exact ih.powerOff steady rail
  | mark rail _ ih => exact ih.setState rail .fault fun _ never => by cases never

theorem Fed.demote (steady : s.Steady row good) {r : Rig σ} (h : s.Fed row good r)
    (rail : RailId) : s.Fed row good (r.demote rail) := by
  have marked := h.setState rail .fault fun _ never => by cases never
  have read : s.Fed row good ((r.setState rail .fault).voltage rail).2 :=
    marked.quiet steady _ (RailBank.voltage_quiet _ rail _)
  let sample := (r.setState rail .fault).voltage rail
  have noted : s.Fed row good (sample.2.record (.supplyFault rail) (.rail .fault sample.1)) :=
    read.quiet steady _ .none
  refine noted.control steady rail false fun same _ on => ?_
  change (r.rails.setState rail .fault).state? s.rail = some .on at on
  rw [RailBank.state?_setState, if_pos same] at on
  obtain ⟨_, _, never⟩ := Option.map_eq_some_iff.1 on
  cases never

theorem Fed.demoteFaulted (steady : s.Steady row good) (rails : List RailId) {r : Rig σ}
    (h : s.Fed row good r) : s.Fed row good (Rig.demoteFaulted rails r).2 ∧
      (r.rails.state? s.rail = some .on →
        (Rig.demoteFaulted rails r).2.rails.state? s.rail = some .on) := by
  induction rails generalizing r with
  | nil => exact ⟨h, id⟩
  | cons rail rest ih =>
    simp only [Rig.demoteFaulted]
    split
    · rename_i entered
      have looked := h.quiet steady _ (r.rails.status_quiet rail r.plant)
      split
      · rename_i faulted
        obtain ⟨fed, stays⟩ := ih (Fed.demote steady looked rail)
        refine ⟨fed, fun on => stays ?_⟩
        -- The rail itself is live while it is entered as on, so the faulted one is another.
        have apart : rail ≠ s.rail := by
          intro same
          subst same
          have live := h.live steady on
          rw [faulted] at live
          cases live
        change (r.rails.setState rail .fault).state? s.rail = some .on
        rw [RailBank.state?_setState, if_neg apart]
        exact on
      · exact ih looked
    · exact ih h

theorem Fed.foldl {step : Rig σ → RailId → Rig σ}
    (keeps : ∀ r rail, s.Fed row good r → s.Fed row good (step r rail)) (rails : List RailId)
    {r : Rig σ} (h : s.Fed row good r) : s.Fed row good (rails.foldl step r) := by
  induction rails generalizing r with
  | nil => exact h
  | cons rail rest ih => exact ih (keeps r rail h)

theorem Fed.adoptLive (steady : s.Steady row good) {r : Rig σ} (h : s.Fed row good r) :
    s.Fed row good r.adoptLive := by
  unfold Rig.adoptLive
  refine h.foldl (fun r rail fed => ?_) r.rails.rails
  refine Fed.setState (fed.quiet steady _ (r.rails.status_quiet rail r.plant)) rail _ ?_
  intro same on
  subst same
  have live : (r.status s.rail).1 = .on := by
    revert on
    cases (r.status s.rail).1 <;> simp
  have lit := (r.rails.status_on_iff s.rail row r.plant (fed.row_eq steady)).1 live
  exact (steady.quiet (r.rails.status_quiet s.rail r.plant) fed.good lit).2

theorem confirmOn_lit (r : Rig σ) (rail : RailId) (row : Rail) (timeout : Span)
    (hrow : r.rails.row? rail = some row) (lasts : ∀ b, Quiet r.plant.board b → Lit row b) :
    (r.confirmOn rail timeout).1 = .ok () := by
  let deadline := r.plant.now.after timeout
  let waited := Rig.awaitOn rail deadline (deadline.micros - r.plant.now.micros) r
  have known : waited.rails.row? rail = some row := by
    rw [Rig.awaitOn_rails]
    exact hrow
  have lit : Lit row waited.plant.board := lasts _ (Rig.awaitOn_quiet rail deadline _ r)
  have live : (waited.status rail).1 = .on :=
    (waited.rails.status_on_iff rail row waited.plant known).2 lit
  simp only [Rig.confirmOn]
  rw [if_pos live]

/-- A root rail that its board confirms as soon as its enable line is up is steady. -/
theorem Steady.of_prompt (listed : s.table[s.rail.index]? = some row) (root : row.parent = s.rail)
    (alone : ∀ i other, s.table[i]? = some other → other.enable.line = row.enable.line →
      i = s.rail.index)
    (still : ∀ (call : Call) b, call.drives = none → good b →
      good (call.run b) ∧ (Lit row b → Lit row (call.run b)))
    (driven : ∀ other ∈ s.table, ∀ level b, good b →
      good (Board.driveLine other.enable.line level b).2 ∧
        (other.enable.line ≠ row.enable.line ∨ level = row.enable.level true → Lit row b →
          Lit row (Board.driveLine other.enable.line level b).2))
    (prompt : ∀ b, good b →
      (Board.driveLine row.enable.line (row.enable.level true) b).1 = .ok () ∧
        Lit row (Board.driveLine row.enable.line (row.enable.level true) b).2) :
    s.Steady row good where
  listed := listed
  alone := alone
  still := still
  driven := driven
  confirms r table _ fine entry := by
    have hrow : r.rails.row? s.rail = some row := by
      rw [RailBank.row?, table]
      exact listed
    obtain ⟨taken, lit⟩ := prompt r.plant.board fine
    obtain ⟨fine', _⟩ := driven row (List.mem_of_getElem? listed) (row.enable.level true)
      r.plant.board fine
    let raised := (r.setState s.rail .turningOn).control s.rail true
    have control : raised = (.ok (), { r.setState s.rail .turningOn with
        plant := (RailBank.drive s.rail row true r.plant).2 }) := by
      have ok : (RailBank.drive s.rail row true r.plant).1 = .ok () := by
        simp only [RailBank.drive, Plant.driveLine, taken]
      have same : (r.rails.setState s.rail .turningOn).row? s.rail = some row := hrow
      simp only [raised, Rig.control, RailBank.control, Rig.setState, same, root, bne_self_eq_false,
        Bool.and_false, Bool.false_eq_true, ↓reduceIte, ok]
    have confirmed : (raised.2.confirmOn s.rail s.timeout).1 = .ok () := by
      rw [control]
      exact confirmOn_lit _ s.rail row s.timeout hrow fun b quiet =>
        (quiet_lit still quiet fine' lit).2
    unfold Rig.powerOn
    split
    · rename_i missing
      rw [missing] at entry
      cases entry
    · rfl
    · have ok : ((r.setState s.rail .turningOn).control s.rail true).1 = .ok () :=
        congrArg Prod.fst control
      simp only [ok]
      exact confirmed

end Supply

end BoardWarden
