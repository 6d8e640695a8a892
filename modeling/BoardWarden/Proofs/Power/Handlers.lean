import BoardWarden.Power.Sequencer
import BoardWarden.Proofs.Rail.Book

set_option autoImplicit false

namespace BoardWarden

namespace PowerPlan

def upperRails (p : PowerPlan) : List RailId := p.upperGroups.flatMap railsOf

def rails (p : PowerPlan) : List RailId := railsOf p.primary ++ p.upperRails

end PowerPlan

namespace Sequencer

/-- `m'` serves the same plan as `m` and differs from it at most in its requests and reasons. -/
structure Serves (m m' : Sequencer) : Prop where
  state : m'.state = m.state
  plan : m'.plan = m.plan
  timings : m'.timings = m.timings
  buttonHeld : m'.buttonHeld = m.buttonHeld

theorem Serves.refl (m : Sequencer) : Serves m m := ⟨rfl, rfl, rfl, rfl⟩

theorem forceShutdown_serves (m : Sequencer) (reason : ShutdownReason) (time : Instant)
    (j : Journal) : Serves m (m.forceShutdown reason time j).1 := by
  unfold forceShutdown
  split
  · exact Serves.refl m
  · exact ⟨rfl, rfl, rfl, rfl⟩

@[simp] theorem forceShutdown_forcing (m : Sequencer) (reason : ShutdownReason) (time : Instant)
    (j : Journal) : (m.forceShutdown reason time j).1.forcingShutdown = true := by
  unfold forceShutdown
  split
  · rename_i h
    exact h
  · rfl

@[simp] theorem forceShutdown_exitRequested (m : Sequencer) (reason : ShutdownReason)
    (time : Instant) (j : Journal) :
    (m.forceShutdown reason time j).1.exitRequested = m.exitRequested := by
  unfold forceShutdown
  split <;> rfl

theorem exitHardOff_serves (m : Sequencer) : Serves m m.exitHardOff.2 := by
  unfold exitHardOff
  split <;> exact ⟨rfl, rfl, rfl, rfl⟩

@[simp] theorem exitHardOff_forcing (m : Sequencer) :
    m.exitHardOff.2.forcingShutdown = m.forcingShutdown := by
  unfold exitHardOff
  split <;> rfl

theorem exitHardOff_requests (m : Sequencer) :
    m.exitHardOff.2.exitRequested = true ↔
      m.exitRequested = true ∨ m.state = .g3 ∨ m.state = .s5g3 := by
  unfold exitHardOff
  split
  · simp [*]
  · simp [*]
  · rename_i home sinking
    refine ⟨.inl, fun asked => ?_⟩
    rcases asked with asked | state | state
    · exact asked
    · exact absurd state home
    · exact absurd state sinking

theorem exitHardOff_lastReset (m : Sequencer) : m.exitHardOff.2.lastReset = m.lastReset := by
  unfold exitHardOff
  split <;> rfl

theorem forceShutdown_lastReset (m : Sequencer) (reason : ShutdownReason) (time : Instant)
    (j : Journal) : (m.forceShutdown reason time j).1.lastReset = m.lastReset := by
  unfold forceShutdown
  split <;> rfl

variable {σ : Type} [Board σ]

theorem reset_serves (m : Sequencer) (reason : ResetReason) (p : Plant σ) :
    Serves m (m.reset reason p).2.1 := by
  unfold reset
  split <;> exact ⟨rfl, rfl, rfl, rfl⟩

@[simp] theorem reset_forcing (m : Sequencer) (reason : ResetReason) (p : Plant σ) :
    (m.reset reason p).2.1.forcingShutdown = m.forcingShutdown := by
  unfold reset
  split <;> rfl

@[simp] theorem reset_exitRequested (m : Sequencer) (reason : ResetReason) (p : Plant σ) :
    (m.reset reason p).2.1.exitRequested = m.exitRequested := by
  unfold reset
  split <;> rfl

theorem reset_lastReset (m : Sequencer) (reason : ResetReason) (p : Plant σ)
    (up : m.state = .s0 ∨ m.state = .s3s0) :
    (m.reset reason p).2.1.lastReset = some reason := by
  rcases up with state | state <;> simp [reset, state]

theorem chipsetInit_fields (m : Sequencer) (rails : RailBank) (reset : ResetFlags) (autoboot : Bool)
    (p : Plant σ) :
    let begun := (m.chipsetInit rails reset autoboot p).1
    begun.plan = m.plan ∧ begun.forcingShutdown = m.forcingShutdown ∧
      begun.state ∈ [PowerState.g3, .s0] := by
  simp only [chipsetInit]
  repeat' split
  all_goals simp

omit [Board σ] in
@[simp] theorem onPlant_rails (r : Rig σ) (f : Plant σ → Plant σ) : (onPlant r f).rails = r.rails :=
  rfl

@[simp] theorem forceShutdownNow_rails (m : Sequencer) (reason : ShutdownReason) (r : Rig σ) :
    (m.forceShutdownNow reason r).2.rails = r.rails := rfl

end Sequencer

namespace Sequencer

open RailBank (Within Entered Knows Down)

variable {σ : Type} [Board σ]

theorem raiseGroups_within (timeout : Span) (groups : List (List Step)) (r : Rig σ) :
    Within (groups.flatMap railsOf) r.rails (raiseGroups timeout groups r).2.rails := by
  induction groups generalizing r with
  | nil => exact Within.refl _ _
  | cons group rest ih =>
    have head : Within ((group :: rest).flatMap railsOf) r.rails _ :=
      (r.sequenceOnWithin_within group timeout).mono (by simp)
    simp only [raiseGroups]
    split
    · exact head
    · exact head.trans ((ih _).mono (by simp))

/-- Groups that all came up are entered as on, since no later group touches an earlier one. -/
theorem raiseGroups_on (timeout : Span) (groups : List (List Step)) (r : Rig σ)
    (distinct : (groups.flatMap railsOf).Nodup) (h : (raiseGroups timeout groups r).1 = true) :
    Entered (· = .on) (groups.flatMap railsOf) (raiseGroups timeout groups r).2.rails := by
  induction groups generalizing r with
  | nil => intro rail hr; simp at hr
  | cons group rest ih =>
    simp only [raiseGroups] at h ⊢
    split at h
    · cases h
    · rename_i hok
      rw [List.flatMap_cons] at distinct ⊢
      obtain ⟨_, drest, dapart⟩ := List.nodup_append.1 distinct
      have head := r.sequenceOnWithin_on group timeout hok
      have apart : ∀ rail ∈ railsOf group, rail ∉ rest.flatMap railsOf :=
        fun rail hr hm => dapart rail hr rail hm rfl
      exact RailBank.entered_append.2
        ⟨head.within (raiseGroups_within timeout rest _) apart, ih _ drest h⟩

theorem lowerGroups_within (groups : List (List Step)) (r : Rig σ) :
    Within (groups.flatMap railsOf) r.rails (lowerGroups groups r).rails := by
  induction groups generalizing r with
  | nil => exact Within.refl _ _
  | cons group rest ih =>
    have head : Within ((group :: rest).flatMap railsOf) r.rails _ :=
      (r.sequenceOff_within group).mono (by simp)
    exact head.trans ((ih _).mono (by simp))

theorem lowerGroups_down (groups : List (List Step)) (r : Rig σ) :
    (lowerGroups groups r).rails.Down (groups.flatMap railsOf) := by
  induction groups generalizing r with
  | nil => intro rail hr; simp at hr
  | cons group rest ih =>
    have tail := lowerGroups_within rest (r.sequenceOff group).2
    intro rail hr known
    by_cases hlater : rail ∈ rest.flatMap railsOf
    · exact ih (r.sequenceOff group).2 rail hlater known
    · have hgroup : rail ∈ railsOf group := by simpa [hlater] using hr
      exact (tail.kept _ hlater).trans (r.sequenceOff_down group rail hgroup (tail.known known))

theorem lowerUpper_within (m : Sequencer) (r : Rig σ) :
    Within m.plan.upperRails r.rails (m.lowerUpper r).rails :=
  (lowerGroups_within m.plan.upperGroups.reverse r).mono (by
    intro rail
    simp [PowerPlan.upperRails])

theorem lowerUpper_down (m : Sequencer) (r : Rig σ) :
    (m.lowerUpper r).rails.Down m.plan.upperRails :=
  (lowerGroups_down m.plan.upperGroups.reverse r).sub (by
    intro rail
    simp [PowerPlan.upperRails])

theorem lowerUpper_off (m : Sequencer) (r : Rig σ) (known : Knows m.plan.upperRails r.rails) :
    Entered (· = .off) m.plan.upperRails (m.lowerUpper r).rails :=
  (m.lowerUpper_down r).entered (known.within (m.lowerUpper_within r))

theorem raisePrimary_cases (m : Sequencer) (r : Rig σ) :
    Within (railsOf m.plan.primary) r.rails (m.raisePrimary r).2.2.rails ∧
      (((m.raisePrimary r).1 = .s3 ∧ (m.raisePrimary r).2.1 = m ∧
          Entered (· = .on) (railsOf m.plan.primary) (m.raisePrimary r).2.2.rails) ∨
        ((m.raisePrimary r).1 = .s0s3 ∧ Serves m (m.raisePrimary r).2.1 ∧
          (m.raisePrimary r).2.1.forcingShutdown = true)) := by
  have w := (onPlant r (·.setApReset true)).sequenceOnWithin_within m.plan.primary
    r.rails.timing.stepTimeout
  simp only [raisePrimary, Rig.sequenceOn]
  split
  · exact ⟨w, .inr ⟨rfl, forceShutdown_serves .., forceShutdown_forcing ..⟩⟩
  · rename_i hok
    exact ⟨w, .inl ⟨rfl, rfl, Rig.sequenceOnWithin_on _ _ _ hok⟩⟩

/-- S3 with the latch clear: the upper groups come up, or the latch is set and none of them is
left up that was not up before. -/
theorem raiseUpper_cases (m : Sequencer) (r : Rig σ) (clear : m.forcingShutdown = false) :
    Within m.plan.upperRails r.rails (m.raiseUpper r).2.2.rails ∧
      (((m.raiseUpper r).1 = .s3s0 ∧ (m.raiseUpper r).2.1 = m ∧
          (m.plan.upperRails.Nodup →
            Entered (· = .on) m.plan.upperRails (m.raiseUpper r).2.2.rails)) ∨
        ((m.raiseUpper r).1 = .s3s5 ∧ Serves m (m.raiseUpper r).2.1 ∧
          (m.raiseUpper r).2.1.forcingShutdown = true ∧
          ((m.raiseUpper r).2.2.rails = r.rails ∨
            (Knows m.plan.upperRails r.rails →
              Entered (· = .off) m.plan.upperRails (m.raiseUpper r).2.2.rails)))) := by
  let live : Rig σ := { r with plant := (r.rails.allOn m.plan.primary r.plant).2 }
  let raised := raiseGroups m.timings.s3Rail m.plan.upperGroups live
  have w : Within m.plan.upperRails r.rails raised.2.rails :=
    raiseGroups_within m.timings.s3Rail m.plan.upperGroups live
  let failed := (m.forceShutdownNow .sequenceFailure raised.2).2
  simp only [raiseUpper, clear, Bool.false_eq_true, ↓reduceIte]
  split
  · split
    · rename_i hup
      exact ⟨w, .inl ⟨rfl, rfl, fun distinct => raiseGroups_on _ _ _ distinct hup⟩⟩
    · refine ⟨w.trans (lowerUpper_within m failed), .inr ⟨rfl, forceShutdown_serves ..,
        forceShutdown_forcing .., .inr fun known => ?_⟩⟩
      exact lowerUpper_off m failed (known.within w)
  · exact ⟨Within.refl _ _, .inr ⟨rfl, forceShutdown_serves .., forceShutdown_forcing .., .inl rfl⟩⟩

theorem raiseUpper_forced (m : Sequencer) (r : Rig σ) (forcing : m.forcingShutdown = true) :
    m.raiseUpper r = (.s3s5, m, r) := by
  simp [raiseUpper, forcing]

theorem awaitAp_cases (m : Sequencer) (r : Rig σ) :
    (m.awaitAp r).2.2.rails = r.rails ∧
      (((m.awaitAp r).1 = .s0 ∧ (m.awaitAp r).2.1 = m) ∨
        ((m.awaitAp r).1 = .s0s3 ∧ Serves m (m.awaitAp r).2.1 ∧
          (m.awaitAp r).2.1.forcingShutdown = true)) := by
  simp only [awaitAp]
  split
  · exact ⟨rfl, .inl ⟨rfl, rfl⟩⟩
  · exact ⟨rfl, .inr ⟨rfl, forceShutdown_serves .., forceShutdown_forcing ..⟩⟩

theorem watchAp_cases (m : Sequencer) (r : Rig σ) :
    (m.watchAp r).2.2.rails = r.rails ∧
      (((m.watchAp r).1 = .s0 ∧ (m.watchAp r).2.1 = m ∧ m.forcingShutdown = false) ∨
        ((m.watchAp r).1 = .s0s3 ∧ Serves m (m.watchAp r).2.1 ∧
          (m.watchAp r).2.1.forcingShutdown = true)) := by
  simp only [watchAp]
  split
  · rename_i forcing
    exact ⟨rfl, .inr ⟨rfl, Serves.refl m, forcing⟩⟩
  · rename_i clear
    split
    · exact ⟨rfl, .inl ⟨rfl, rfl, by simpa using clear⟩⟩
    · exact ⟨rfl, .inr ⟨rfl, forceShutdown_serves .., forceShutdown_forcing ..⟩⟩

theorem suspend_cases (m : Sequencer) (r : Rig σ) :
    (m.suspend r).1 = .s3 ∧ Serves m (m.suspend r).2.1 ∧
      (m.forcingShutdown = true → (m.suspend r).2.1.forcingShutdown = true) ∧
      Within m.plan.upperRails r.rails (m.suspend r).2.2.rails ∧
      (Knows m.plan.upperRails r.rails →
        Entered (· = .off) m.plan.upperRails (m.suspend r).2.2.rails) := by
  have w := lowerUpper_within m (onPlant r fun p => (p.notify .suspend).setApReset true)
  have off := lowerUpper_off m (onPlant r fun p => (p.notify .suspend).setApReset true)
  simp only [suspend]
  split
  · exact ⟨rfl, forceShutdown_serves .., fun _ => forceShutdown_forcing .., w, off⟩
  · exact ⟨rfl, Serves.refl m, id, w, off⟩

theorem lowerPrimary_cases (m : Sequencer) (r : Rig σ) :
    (m.lowerPrimary r).1 = .s5 ∧ (m.lowerPrimary r).2.1 = m ∧
      Within (railsOf m.plan.primary) r.rails (m.lowerPrimary r).2.2.rails ∧
      (Knows (railsOf m.plan.primary) r.rails →
        Entered (· = .off) (railsOf m.plan.primary) (m.lowerPrimary r).2.2.rails) :=
  ⟨rfl, rfl, Rig.sequenceOff_within (onPlant r (·.notify .shutdown)) _,
    Rig.sequenceOff_off (onPlant r (·.notify .shutdown)) _⟩

/-- The work of a state keeps the plan and leaves the change of state to `handle`. -/
theorem next_serves (m : Sequencer) (r : Rig σ) : Serves m (m.next r).2.1 := by
  unfold next
  split
  · split
    · exact ⟨rfl, rfl, rfl, rfl⟩
    · exact Serves.refl m
  · exact ⟨rfl, rfl, rfl, rfl⟩
  · exact Serves.refl m
  · rcases (m.raisePrimary_cases r).2 with ⟨_, hm, _⟩ | ⟨_, hm, _⟩
    · rw [hm]
      exact Serves.refl m
    · exact hm
  · cases hf : m.forcingShutdown with
    | true =>
      rw [raiseUpper_forced m r hf]
      exact Serves.refl m
    | false =>
      rcases (m.raiseUpper_cases r hf).2 with ⟨_, hm, _⟩ | ⟨_, hm, _⟩
      · rw [hm]
        exact Serves.refl m
      · exact hm
  · rcases (m.awaitAp_cases r).2 with ⟨_, hm⟩ | ⟨_, hm, _⟩
    · rw [hm]
      exact Serves.refl m
    · exact hm
  · rcases (m.watchAp_cases r).2 with ⟨_, hm, _⟩ | ⟨_, hm, _⟩
    · rw [hm]
      exact Serves.refl m
    · exact hm
  · exact (m.suspend_cases r).2.1
  · exact Serves.refl m
  · exact Serves.refl m

theorem fail_exitRequested (m : Sequencer) (reason : ShutdownReason) (next : PowerState) (r : Rig σ) :
    (m.fail reason next r).2.1.exitRequested = m.exitRequested :=
  m.forceShutdown_exitRequested ..

theorem next_exitRequested (m : Sequencer) (r : Rig σ) :
    (m.next r).2.1.exitRequested = (m.exitRequested && m.state != .g3) := by
  cases hs : m.state <;> simp only [next, hs]
  case g3 => split <;> simp [*]
  case g3s5 | s5 | s3s5 | s5g3 => simp [lowerPrimary]
  case s5s3 =>
    simp only [raisePrimary]
    split <;> simp [fail_exitRequested]
  case s3 =>
    simp only [raiseUpper]
    split
    · simp
    · split
      · split <;> simp [fail_exitRequested]
      · simp [fail_exitRequested]
  case s3s0 =>
    simp only [awaitAp]
    split <;> simp [fail_exitRequested]
  case s0 =>
    simp only [watchAp]
    split
    · simp
    · split <;> simp [fail_exitRequested]
  case s0s3 =>
    simp only [suspend]
    split <;> simp [fail_exitRequested]

/-- A step of the sequencer is the work of its state with the state that the work picks. -/
theorem handle_sequencer (m : Sequencer) (r : Rig σ) :
    (m.handle r).1 = { (m.next r).2.1 with state := (m.next r).1 } := by
  simp only [handle]
  split
  · rename_i same
    rw [same, ← (m.next_serves r).state]
  · rfl

theorem handle_rails (m : Sequencer) (r : Rig σ) :
    (m.handle r).2.rails = (m.next r).2.2.rails := by
  simp only [handle]
  split <;> rfl

theorem handle_state (m : Sequencer) (r : Rig σ) : (m.handle r).1.state = (m.next r).1 := by
  rw [handle_sequencer]

theorem handle_forcing (m : Sequencer) (r : Rig σ) :
    (m.handle r).1.forcingShutdown = (m.next r).2.1.forcingShutdown := by
  rw [handle_sequencer]

theorem handle_exitRequested (m : Sequencer) (r : Rig σ) :
    (m.handle r).1.exitRequested = (m.exitRequested && m.state != .g3) := by
  rw [handle_sequencer]
  exact m.next_exitRequested r

theorem handle_plan (m : Sequencer) (r : Rig σ) : (m.handle r).1.plan = m.plan := by
  rw [handle_sequencer]
  exact (m.next_serves r).plan

end Sequencer

end BoardWarden
