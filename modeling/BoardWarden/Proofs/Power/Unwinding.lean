import BoardWarden.Proofs.Power.Train
import BoardWarden.Proofs.Rail.Work

set_option autoImplicit false

namespace BoardWarden

theorem RailBank.ofTable_down (table : List Rail) (timing : RailTiming) (rails : List RailId) :
    (RailBank.ofTable table timing).Down rails := by
  intro rail _ known
  obtain ⟨state, entered⟩ := Option.isSome_iff_exists.1 (known rail (by simp)).2
  obtain ⟨_, _, rfl⟩ := List.mem_map.1 (List.mem_of_getElem? entered)
  exact entered

namespace Sequencer

open RailBank (Within Down Knows)

variable {σ : Type} [Board σ]

/-- What the plan has down in each state, as far as the table knows it. -/
def Resting (plan : PowerPlan) (b : RailBank) : PowerState → Prop
  | .g3 | .g3s5 | .s5 | .s5s3 | .s5g3 => b.Down plan.rails
  | .s3 | .s3s5 => b.Down plan.upperRails
  | .s3s0 | .s0 | .s0s3 => True

theorem raiseUpper_resting (m : Sequencer) (r : Rig σ) (rests : r.rails.Down m.plan.upperRails) :
    Resting m.plan (m.raiseUpper r).2.2.rails (m.raiseUpper r).1 := by
  simp only [raiseUpper]
  split
  · exact rests
  · split
    · split
      · trivial
      · exact lowerUpper_down m _
    · exact rests

theorem next_resting (m : Sequencer) (r : Rig σ) (distinct : m.plan.rails.Nodup)
    (rests : Resting m.plan r.rails m.state) :
    Resting m.plan (m.next r).2.2.rails (m.next r).1 := by
  have apart : ∀ rail ∈ m.plan.upperRails, rail ∉ railsOf m.plan.primary :=
    fun rail hu hp => (List.nodup_append.1 distinct).2.2 rail hp rail hu rfl
  cases hs : m.state <;> simp only [next, hs] <;> rw [hs] at rests
  case g3 => split <;> exact rests
  case g3s5 | s5g3 => exact rests
  case s5 => split <;> exact rests
  case s5s3 =>
    obtain ⟨w, ⟨up, _⟩ | ⟨failed, _⟩⟩ := m.raisePrimary_cases r
    · rw [up]
      exact (RailBank.down_append.1 rests).2.within w apart
    · rw [failed]
      trivial
  case s3 => exact m.raiseUpper_resting r rests
  case s3s0 =>
    rcases (m.awaitAp_cases r).2 with ⟨up, _⟩ | ⟨failed, _⟩
    · rw [up]
      trivial
    · rw [failed]
      trivial
  case s0 =>
    rcases (m.watchAp_cases r).2 with ⟨stays, _⟩ | ⟨falls, _⟩
    · rw [stays]
      trivial
    · rw [falls]
      trivial
  case s0s3 =>
    have lowered := m.lowerUpper_down (onPlant r fun p => (p.notify .suspend).setApReset true)
    simp only [suspend]
    split <;> exact lowered
  case s3s5 =>
    obtain ⟨_, _, w, _⟩ := m.lowerPrimary_cases r
    exact RailBank.down_append.2
      ⟨Rig.sequenceOff_down (onPlant r (·.notify .shutdown)) m.plan.primary,
        rests.within w apart⟩

omit [Board σ] in
theorem Resting.demoted {plan : PowerPlan} {b b' : RailBank} {s : PowerState}
    {touched : List RailId} (h : Resting plan b s) (w : Within touched b b')
    (entries : ∀ rail, b'.state? rail = b.state? rail ∨ b.state? rail = some .on) :
    Resting plan b' s := by
  have down : ∀ rails, b.Down rails → b'.Down rails := by
    intro rails down rail hr known
    have off := down rail hr (w.known known)
    rcases entries rail with same | on
    · exact same.trans off
    · cases off.symm.trans on
  cases s <;> first | trivial | exact down _ h

end Sequencer

theorem Work.within {σ : Type} [Board σ] {r r' : Rig σ} (work : Work r r') :
    ∃ touched, RailBank.Within touched r.rails r'.rails := by
  induction work with
  | rest => exact ⟨[], .refl _ _⟩
  | look p _ _ ih => exact ih
  | raise rail settle timeout _ ih =>
    obtain ⟨touched, w⟩ := ih
    exact ⟨rail :: touched, (w.mono (by simp)).trans
      ((Rig.powerOn_within _ rail settle timeout).mono (by simp))⟩
  | lower rail _ ih =>
    obtain ⟨touched, w⟩ := ih
    exact ⟨rail :: touched, (w.mono (by simp)).trans ((Rig.powerOff_within _ rail).mono (by simp))⟩
  | mark rail _ ih =>
    obtain ⟨touched, w⟩ := ih
    exact ⟨rail :: touched, (w.mono (by simp)).trans
      ((RailBank.setState_within _ rail .fault).mono (by simp))⟩

namespace PowerTrain

open Sequencer (Resting)

variable {σ : Type} [Board σ]

structure Rested (timing : RailTiming) (plan : PowerPlan) (timings : PowerTimings)
    (t : PowerTrain σ) : Prop where
  plan_eq : t.sequencer.plan = plan
  timings_eq : t.sequencer.timings = timings
  timing_eq : t.rig.rails.timing = timing
  rests : Resting plan t.rig.rails t.state

variable {timing : RailTiming} {plan : PowerPlan} {timings : PowerTimings}

omit [Board σ] in
theorem Rested.serves {t t' : PowerTrain σ} (h : Rested timing plan timings t)
    (serves : Sequencer.Serves t.sequencer t'.sequencer) (rails : t'.rig.rails = t.rig.rails) :
    Rested timing plan timings t' := by
  refine ⟨serves.plan.trans h.plan_eq, serves.timings.trans h.timings_eq, ?_, ?_⟩ <;> rw [rails]
  · exact h.timing_eq
  · rw [state, serves.state]
    exact h.rests

theorem serviceFaults_rested (t : PowerTrain σ) (h : Rested timing plan timings t) :
    Rested timing plan timings (t.apply .serviceFaults) := by
  by_cases pending : t.rig.rails.faultCheckPending
  · let asked : Rig σ := { t.rig with rails := { t.rig.rails with faultCheckPending := false } }
    obtain ⟨w, entries⟩ := Rig.demoteFaulted_entries t.rig.rails.rails asked
    have checked : Rested timing plan timings { t with rig := t.rig.runFaultCheck.2 } :=
      ⟨h.plan_eq, h.timings_eq, w.timing.trans h.timing_eq,
        Resting.demoted (b := asked.rails) h.rests w fun rail => (entries rail).imp_right And.left⟩
    simp only [apply, serviceFaults, pending, ↓reduceIte]
    split
    · exact checked
    · exact checked.serves (Sequencer.forceShutdown_serves ..) rfl
  · have idle : t.apply .serviceFaults = t := by
      simp [apply, serviceFaults, pending]
    rw [idle]
    exact h

theorem apply_rested (distinct : plan.rails.Nodup) (t : PowerTrain σ) (q : Request σ)
    (h : Rested timing plan timings t) : Rested timing plan timings (t.apply q) := by
  cases q with
  | handle =>
    obtain ⟨rfl, rfl, rfl, rests⟩ := h
    obtain ⟨touched, w⟩ := (t.sequencer.handle_work t.rig).within
    refine ⟨t.sequencer.handle_plan t.rig, ?_, w.timing, ?_⟩
    · simp only [apply, Sequencer.handle_sequencer]
      exact (t.sequencer.next_serves t.rig).timings
    · simp only [apply, state, Sequencer.handle_rails, Sequencer.handle_state]
      exact t.sequencer.next_resting t.rig distinct rests
  | serviceFaults => exact serviceFaults_rested t h
  | forceShutdown reason time => exact h.serves (Sequencer.forceShutdown_serves ..) rfl
  | exitHardOff => exact h.serves t.sequencer.exitHardOff_serves rfl
  | reset reason => exact h.serves (t.sequencer.reset_serves reason t.rig.plant) rfl
  | setButtonHeld _ | requestFaultCheck | outside _ =>
    exact ⟨h.plan_eq, h.timings_eq, h.timing_eq, h.rests⟩

theorem run_rested (table : List Rail) (plant : Plant σ) (distinct : plan.rails.Nodup)
    (qs : List (Request σ)) :
    Rested timing plan timings ((fresh table timing plan timings plant).run qs) :=
  run_invariant (Rested timing plan timings) (apply_rested distinct) _ qs
    ⟨rfl, rfl, rfl, RailBank.ofTable_down table timing plan.rails⟩

/-- Steps of the sequencer to G3, at most, while the latch is set. -/
def rank : PowerState → Nat
  | .g3 | .g3s5 => 0
  | .s5g3 => 1
  | .s5 => 2
  | .s3s5 => 3
  | .s3 => 4
  | .s0s3 => 5
  | .s0 | .s5s3 => 6
  | .s3s0 => 7

/-- With the latch set a step leads to G3, or the latch stays set and the rank goes down. -/
theorem Moves.descends {s s' : PowerState} {f : Bool} (h : Moves s true s' f) (up : 0 < rank s) :
    s' = .g3 ∨ (f = true ∧ 0 < rank s' ∧ rank s' < rank s) := by
  cases h <;> simp [rank] at up ⊢

def isHandle : Request σ → Bool
  | .handle => true
  | _ => false

def handles (qs : List (Request σ)) : Nat := qs.countP isHandle

/-- A latched train is in G3 after one of the next steps that its rank allows, whatever else is asked
of it in between. -/
theorem run_unwinds (t : PowerTrain σ) (qs : List (Request σ)) (latched : t.forcing = true)
    (up : 0 < rank t.state) (enough : rank t.state ≤ handles qs) :
    ∃ before after, qs = before ++ .handle :: after ∧ handles before < rank t.state ∧
      (t.run (before ++ [.handle])).state = .g3 := by
  -- A step lowers the rank, and whatever comes between two steps keeps state and latch.
  induction qs generalizing t with
  | nil =>
    simp only [handles, List.countP_nil] at enough
    omega
  | cons q rest ih =>
    by_cases step : q = .handle
    · subst step
      have move := t.handle_moves
      rw [latched] at move
      rcases move.descends up with off | ⟨latched', up', lower⟩
      · exact ⟨[], rest, rfl, up, off⟩
      · have enough' : rank (t.apply .handle).state ≤ handles rest := by
          simp only [handles, List.countP_cons, isHandle, ↓reduceIte] at enough ⊢
          omega
        obtain ⟨before, after, rfl, few, off⟩ := ih (t.apply .handle) latched' up' enough'
        refine ⟨.handle :: before, after, rfl, ?_, off⟩
        simp only [handles, List.countP_cons, isHandle, ↓reduceIte] at few ⊢
        omega
    · obtain ⟨state, kept⟩ := t.apply_state q step
      have other : isHandle q = false := by
        cases q <;> first | rfl | exact absurd rfl step
      have same : ∀ qs, handles (q :: qs) = handles qs := by
        intro qs
        simp [handles, other]
      rw [same] at enough
      rw [← state] at up enough ⊢
      obtain ⟨before, after, rfl, few, off⟩ := ih (t.apply q) (kept latched) up enough
      exact ⟨q :: before, after, rfl, by rwa [same], off⟩

end PowerTrain

end BoardWarden
