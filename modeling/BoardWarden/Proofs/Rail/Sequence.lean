import BoardWarden.Proofs.Rail.PowerOn

set_option autoImplicit false

namespace BoardWarden

open RailBank (Within Entered)

variable {σ : Type} [Board σ]

namespace Rig

theorem control_error {r : Rig σ} {rail : RailId} {on : Bool} {error : RailError}
    (failed : (r.control rail on).1 = .error error) :
    error = .unknown rail ∨ error = .parentNotReady rail ∨ error = .controlFailed rail := by
  have driven : ∀ (row : Rail) (p : Plant σ), (RailBank.drive rail row on p).1 = .error error →
      error = .controlFailed rail := by
    intro row p refused
    simp only [RailBank.drive] at refused
    split at refused <;> cases refused
    rfl
  simp only [control, RailBank.control] at failed
  split at failed
  · cases failed
    exact .inl rfl
  · split at failed
    · split at failed
      · exact .inr (.inr (driven _ _ failed))
      · cases failed
        exact .inr (.inl rfl)
    · exact .inr (.inr (driven _ _ failed))

theorem powerOn_error {r : Rig σ} {rail : RailId} {settle timeout : Span} {error : RailError}
    (failed : (r.powerOn rail settle timeout).1 = .error error) :
    error = .unknown rail ∨ error = .parentNotReady rail ∨ error = .controlFailed rail ∨
      error = .powerGoodTimeout rail := by
  unfold powerOn at failed
  split at failed
  · cases failed
    exact .inl rfl
  · cases failed
  · dsimp only at failed
    split at failed
    · rename_i refused
      cases failed
      rcases control_error refused with known | parent | write
      · exact .inl known
      · exact .inr (.inl parent)
      · exact .inr (.inr (.inl write))
    · generalize (if settle = Span.zero then _ else _ : Rig σ) = settled at failed
      simp only [confirmOn] at failed
      split at failed <;> cases failed
      exact .inr (.inr (.inr rfl))

theorem raise_append (timeout : Span) {before : List Step} (rest : List Step) {r : Rig σ}
    (raised : (raise timeout before r).1 = .ok ()) :
    raise timeout (before ++ rest) r = raise timeout rest (raise timeout before r).2 := by
  induction before generalizing r with
  | nil => rfl
  | cons first others ih =>
    simp only [raise] at raised
    split at raised
    · cases raised
    · rename_i on
      simp only [List.cons_append, raise, on]
      exact ih raised

theorem raise_failed (timeout : Span) (after : List Step) {before : List Step} {step : Step} {r : Rig σ}
    {error : RailError} (raised : (raise timeout before r).1 = .ok ())
    (failed : ((raise timeout before r).2.powerOn step.rail step.settle timeout).1 = .error error) :
    raise timeout (before ++ step :: after) r = (.error error,
      ((raise timeout before r).2.powerOn step.rail step.settle timeout).2.note
        (.sequenceFailed step.rail)) := by
  rw [raise_append timeout (step :: after) raised]
  simp only [raise, failed]

theorem raise_error (timeout : Span) {steps : List Step} {r : Rig σ} {error : RailError}
    (failed : (raise timeout steps r).1 = .error error) :
    ∃ before step after, steps = before ++ step :: after ∧
      (raise timeout before r).1 = .ok () ∧
      ((raise timeout before r).2.powerOn step.rail step.settle timeout).1 = .error error := by
  induction steps generalizing r with
  | nil => cases failed
  | cons step rest ih =>
    simp only [raise] at failed
    split at failed
    · rename_i refused
      cases failed
      exact ⟨[], step, rest, rfl, rfl, refused⟩
    · rename_i on
      obtain ⟨before, next, after, rfl, raised, refused⟩ := ih failed
      refine ⟨step :: before, next, after, rfl, ?_, ?_⟩ <;> simp only [raise, on]
      · exact raised
      · exact refused

def firstLost (r : Rig σ) (rails : List RailId) : Option RailId :=
  rails.find? fun rail => (r.status rail).1 ≠ .on

theorem firstLost_none {r : Rig σ} {rails : List RailId} :
    r.firstLost rails = none ↔ ∀ rail ∈ rails, (r.status rail).1 = .on := by
  simp [firstLost, List.find?_eq_none]

theorem firstLost_some {r : Rig σ} {rails : List RailId} {rail : RailId} :
    r.firstLost rails = some rail ↔ (r.status rail).1 ≠ .on ∧ ∃ before after,
      rails = before ++ rail :: after ∧ ∀ other ∈ before, (r.status other).1 = .on := by
  simp [firstLost, List.find?_eq_some_iff_append]

section Looks

variable (looks : RailBank.LooksOnly σ)

include looks

theorem verify_board (steps : List Step) (r : Rig σ) :
    (verify steps r).2.plant.board = r.plant.board := by
  induction steps generalizing r with
  | nil => rfl
  | cons step rest ih =>
    simp only [verify, r.status_rig looks]
    split
    · exact ih r
    · exact ih _

theorem verify_live (steps : List Step) (r : Rig σ) (rail : RailId) :
    ((verify steps r).2.status rail).1 = (r.status rail).1 := by
  have plant : (verify steps r).2.plant = ⟨r.plant.board, (verify steps r).2.plant.journal⟩ :=
    congrArg (Plant.mk · _) (verify_board looks steps r)
  have same := RailBank.status_congr (verify_within steps r).table rail (verify steps r).2.plant
  refine (congrArg Prod.fst same).trans ?_
  rw [plant]
  exact r.rails.status_journal rail r.plant _

theorem verify_first (steps : List Step) (r : Rig σ) :
    (verify steps r).1 = match r.firstLost (railsOf steps) with
      | none => .ok ()
      | some rail => .error (.regressed rail) := by
  induction steps with
  | nil => rfl
  | cons step rest ih =>
    simp only [verify, r.status_rig looks, firstLost, railsOf_cons, List.find?_cons]
    split
    · rename_i live
      simp only [live, ne_eq, not_true_eq_false, decide_false]
      exact ih
    · rename_i lost
      simp only [ne_eq, lost, not_false_eq_true, decide_true]

theorem verify_marks (steps : List Step) (r : Rig σ) (rail : RailId) :
    (verify steps r).2.rails.state? rail =
      if rail ∈ railsOf steps ∧ (r.status rail).1 ≠ .on then
        (r.rails.state? rail).map fun _ => .fault
      else r.rails.state? rail := by
  induction steps generalizing r with
  | nil => simp only [verify, railsOf_nil, List.not_mem_nil, false_and, if_false]
  | cons step rest ih =>
    simp only [verify, r.status_rig looks, railsOf_cons, List.mem_cons]
    split
    · rename_i live
      rw [ih]
      by_cases same : rail = step.rail
      · subst same
        simp [live]
      · simp [same]
    · rename_i lost
      let marked := (r.setState step.rail .fault).note (.sequenceFailed step.rail)
      have seen : (marked.status rail).1 = (r.status rail).1 :=
        r.rails.status_journal rail r.plant _
      have entry : marked.rails.state? rail =
          if step.rail = rail then (r.rails.state? rail).map fun _ => .fault
            else r.rails.state? rail := r.rails.state?_setState step.rail rail .fault
      rw [ih marked, seen, entry]
      by_cases same : step.rail = rail
      · subst same
        simp [lost, Function.comp_def]
      · simp [same, Ne.symm same]

end Looks

theorem sequenceOnWithin_raised {r : Rig σ} {steps : List Step} {timeout : Span}
    (raised : (raise timeout steps r).1 = .ok ()) :
    r.sequenceOnWithin steps timeout = verify steps (raise timeout steps r).2 := by
  simp only [sequenceOnWithin, raised]

theorem sequenceOnWithin_failed {r : Rig σ} {steps : List Step} {timeout : Span}
    {error : RailError} (failed : (raise timeout steps r).1 = .error error) :
    r.sequenceOnWithin steps timeout = (.error error, (raise timeout steps r).2) := by
  simp only [sequenceOnWithin, failed]

section Looks

variable (looks : RailBank.LooksOnly σ) {r : Rig σ} {steps : List Step} {timeout : Span}

include looks

theorem sequenceOnWithin_first (raised : (raise timeout steps r).1 = .ok ()) :
    (r.sequenceOnWithin steps timeout).1 =
      match (r.sequenceOnWithin steps timeout).2.firstLost (railsOf steps) with
      | none => .ok ()
      | some rail => .error (.regressed rail) := by
  have live := fun rail => verify_live looks steps (raise timeout steps r).2 rail
  rw [sequenceOnWithin_raised raised, verify_first looks]
  simp only [firstLost, live]

theorem sequenceOnWithin_marks (raised : (raise timeout steps r).1 = .ok ()) :
    ∀ rail ∈ railsOf steps, (r.sequenceOnWithin steps timeout).2.rails.state? rail =
      some (if ((r.sequenceOnWithin steps timeout).2.status rail).1 = .on then .on else .fault) := by
  intro rail listed
  obtain ⟨_, entered, rfl⟩ := raise_on timeout steps r raised rail listed
  rw [sequenceOnWithin_raised raised, verify_marks looks, verify_live looks, entered]
  by_cases live : ((raise timeout steps r).2.status rail).1 = .on
  · simp [live]
  · simp [listed, live]

theorem sequenceOnWithin_regressed {rail : RailId} :
    (r.sequenceOnWithin steps timeout).1 = .error (.regressed rail) ↔
      (raise timeout steps r).1 = .ok () ∧
        (r.sequenceOnWithin steps timeout).2.firstLost (railsOf steps) = some rail := by
  constructor
  · intro lost
    cases outcome : (raise timeout steps r).1 with
    | error error =>
      obtain ⟨_, _, _, _, _, refused⟩ := raise_error timeout outcome
      rw [sequenceOnWithin_failed outcome] at lost
      cases lost
      rcases powerOn_error refused with never | never | never | never <;> cases never
    | ok =>
      rw [sequenceOnWithin_first looks outcome] at lost
      split at lost
      · cases lost
      · rename_i first
        cases lost
        exact ⟨rfl, first⟩
  · rintro ⟨raised, first⟩
    rw [sequenceOnWithin_first looks raised, first]

theorem sequenceOnWithin_live (ok : (r.sequenceOnWithin steps timeout).1 = .ok ()) :
    ∀ rail ∈ railsOf steps, ((r.sequenceOnWithin steps timeout).2.status rail).1 = .on := by
  cases outcome : (raise timeout steps r).1 with
  | error error =>
    rw [sequenceOnWithin_failed outcome] at ok
    cases ok
  | ok =>
    rw [sequenceOnWithin_first looks outcome] at ok
    split at ok
    · rename_i none
      exact firstLost_none.1 none
    · cases ok

end Looks

/-- The rail of `step` is the first of the sequence that cannot be raised. -/
structure FailsAt (r : Rig σ) (timeout : Span) (before : List Step) (step : Step)
    (error : RailError) : Prop where
  raised : (raise timeout before r).1 = .ok ()
  failed : ((raise timeout before r).2.powerOn step.rail step.settle timeout).1 = .error error

namespace FailsAt

variable {r : Rig σ} {timeout : Span} {before : List Step} {step : Step} {error : RailError}

theorem run (h : r.FailsAt timeout before step error) (after : List Step) :
    r.sequenceOnWithin (before ++ step :: after) timeout = (.error error,
      ((raise timeout before r).2.powerOn step.rail step.settle timeout).2.note
        (.sequenceFailed step.rail)) := by
  have stopped := raise_failed timeout after h.raised h.failed
  rw [sequenceOnWithin_failed (congrArg Prod.fst stopped), stopped]

theorem on (h : r.FailsAt timeout before step error) (after : List Step)
    (once : (railsOf (before ++ step :: after)).Nodup) :
    Entered (· = .on) (railsOf before)
      (r.sequenceOnWithin (before ++ step :: after) timeout).2.rails := by
  rw [h.run after]
  refine (raise_on timeout before r h.raised).within
    (powerOn_within (raise timeout before r).2 step.rail step.settle timeout)
    fun rail earlier same => ?_
  rw [railsOf, List.map_append, List.map_cons] at once
  exact (List.nodup_append.1 once).2.2 rail earlier step.rail List.mem_cons_self
    (List.mem_singleton.1 same)

theorem spares (h : r.FailsAt timeout before step error) (after : List Step)
    (once : (railsOf (before ++ step :: after)).Nodup) : ∀ rail ∈ railsOf after,
      (r.sequenceOnWithin (before ++ step :: after) timeout).2.rails.state? rail =
        r.rails.state? rail := by
  intro rail later
  have within := r.sequenceOnWithin_within (before ++ [step]) timeout
  rw [(h.run after).trans (h.run []).symm]
  refine within.kept rail fun tried => ?_
  rw [List.append_cons, railsOf, List.map_append] at once
  exact (List.nodup_append.1 once).2.2 rail tried rail later rfl

theorem watch (h : r.FailsAt timeout before step error) :
    r.watch.FailsAt timeout before step error := by
  have raised := watch_act (fun r => raise timeout before r)
    ((View.unwatch σ).raise_mirrors r.watch timeout before)
  obtain ⟨_, _, kept⟩ := (View.unwatch σ).powerOn_mirrors (raise timeout before r.watch).2 step.rail
    step.settle timeout
  refine ⟨(congrArg Prod.fst raised).symm.trans h.raised, ?_⟩
  have failed := h.failed
  rw [raised] at failed
  exact (congrArg Prod.fst (kept ())).symm.trans failed

theorem calls (h : r.FailsAt timeout before step error) (after : List Step) :
    (r.calls fun r => r.sequenceOnWithin (before ++ step :: after) timeout) =
      r.calls fun r => r.sequenceOnWithin (before ++ [step]) timeout :=
  congrArg (fun done => (done.2.plant.board.tape.map Prod.fst).reverse)
    ((h.watch.run after).trans (h.watch.run []).symm)

end FailsAt

/-- A sequence that is raised ends with each of its rails on and live. One that fails at a step makes
no call for the steps after it and leaves their rails as they were. Else every rail was raised, and
the error is the first of them that is not live; these rails, and no others, are marked. -/
theorem sequenceOnWithin_outcome (looks : RailBank.LooksOnly σ) (r : Rig σ) (steps : List Step)
    (once : (railsOf steps).Nodup) (timeout : Span) :
    let done := r.sequenceOnWithin steps timeout
    Within (railsOf steps) r.rails done.2.rails ∧
      (done.1 = .ok () → ∀ rail ∈ railsOf steps,
        done.2.rails.state? rail = some .on ∧ (done.2.status rail).1 = .on) ∧
      (∀ before step after error, steps = before ++ step :: after →
        r.FailsAt timeout before step error →
          done.1 = .error error ∧
          (∀ rail ∈ railsOf before, done.2.rails.state? rail = some .on) ∧
          (∀ rail ∈ railsOf after, done.2.rails.state? rail = r.rails.state? rail) ∧
          (r.calls fun r => r.sequenceOnWithin steps timeout) =
            (r.calls fun r => r.sequenceOnWithin (before ++ [step]) timeout) ∧
          (r.writes fun r => r.sequenceOnWithin steps timeout).Sublist
            (r.rails.writes true (railsOf (before ++ [step])))) ∧
      (∀ rail, done.1 = .error (.regressed rail) ↔
        (raise timeout steps r).1 = .ok () ∧ done.2.firstLost (railsOf steps) = some rail) ∧
      ((raise timeout steps r).1 = .ok () → ∀ rail ∈ railsOf steps,
        done.2.rails.state? rail = some (if (done.2.status rail).1 = .on then .on else .fault)) ∧
      ∀ error, done.1 = .error error → (∃ rail, error = .regressed rail) ∨
        ∃ before step after, steps = before ++ step :: after ∧ r.FailsAt timeout before step error := by
  intro done
  refine ⟨r.sequenceOnWithin_within steps timeout, fun ok rail listed => ?_, ?_,
    fun rail => sequenceOnWithin_regressed looks, sequenceOnWithin_marks looks,
    fun error failed => ?_⟩
  · obtain ⟨_, entered, rfl⟩ := sequenceOnWithin_on r steps timeout ok rail listed
    exact ⟨entered, sequenceOnWithin_live looks ok rail listed⟩
  · rintro before step after error rfl fails
    obtain ⟨writes, events, seen, sub⟩ :=
      r.watch.sequenceOnWithin_shows (before ++ [step]) timeout
    have calls := fails.calls after
    refine ⟨congrArg Prod.fst (fails.run after), fun rail earlier => ?_, fails.spares after once,
      calls, ?_⟩
    · obtain ⟨_, entered, rfl⟩ := fails.on after once rail earlier
      exact entered
    · rw [Rig.writes, calls]
      rw [← writes_of_shows (fun r => r.sequenceOnWithin (before ++ [step]) timeout) seen]
        at sub
      exact sub
  · cases outcome : (raise timeout steps r).1 with
    | error refusal =>
      obtain ⟨before, step, after, split, raised, refused⟩ := raise_error timeout outcome
      rw [show done.1 = _ from congrArg Prod.fst (sequenceOnWithin_failed outcome)] at failed
      cases failed
      exact .inr ⟨before, step, after, split, raised, refused⟩
    | ok =>
      rw [show done.1 = _ from sequenceOnWithin_first looks outcome] at failed
      split at failed
      · cases failed
      · cases failed
        exact .inl ⟨_, rfl⟩

end Rig

namespace Carrier

def dropping : Rig Bench :=
  ⟨⟨bench.change { dropout := [⟨⟨2⟩, 30000, 1000000⟩] }, Journal.fresh⟩, rig.rails⟩

def ascent : List Step := [Step.ofMillis 0 10, Step.ofMillis 1 5, Step.ofMillis 3 20]

end Carrier

theorem Carrier.standby_regresses :
    let timeout := Span.ofMillis 50
    let done := dropping.sequenceOnWithin ascent timeout
    (Rig.raise timeout ascent dropping).1 = .ok () ∧ done.1 = .error (.regressed ⟨1⟩) ∧
      done.2.firstLost (railsOf ascent) = some ⟨1⟩ ∧ done.2.rails.state? ⟨1⟩ = some .fault ∧
      ∀ rail ∈ [⟨0⟩, ⟨3⟩], done.2.rails.state? rail = some .on := by
  intro timeout done
  obtain ⟨_, _, _, regressed, marks, _⟩ := dropping.sequenceOnWithin_outcome Bench.looksOnly ascent
    (by decide) timeout
  have lost : done.1 = .error (.regressed ⟨1⟩) := by decide +kernel
  obtain ⟨raised, first⟩ := (regressed ⟨1⟩).1 lost
  have live : ∀ rail ∈ [⟨0⟩, ⟨3⟩], (done.2.status rail).1 = .on := by decide +kernel
  have ascended : ∀ rail ∈ [⟨0⟩, ⟨3⟩], rail ∈ railsOf ascent := by decide
  refine ⟨raised, lost, first, ?_, fun rail listed => ?_⟩
  · rw [marks raised ⟨1⟩ (by decide), if_neg (Rig.firstLost_some.1 first).1]
  · rw [marks raised rail (ascended rail listed), if_pos (live rail listed)]

end BoardWarden
