import BoardWarden.Proofs.Power.Train

set_option autoImplicit false

/-!
The book agrees with the power state on every run, whatever the board answers: the rails of the
plan are down near G3, up near S0, and in S3 the upper ones are down. The latch carries the
induction: S3 is entered from below with the primary rails up and from above with the latch set,
and a fault check that takes a rail down sets the latch in the same step.
-/

namespace BoardWarden.PowerTrain

open RailBank (Within Entered Knows)

variable {σ : Type}

/-- What the book says of the rails of `plan` in each power state. On the way from S0 to S3 it may
say anything. -/
def Agrees (plan : PowerPlan) (forcing : Bool) (b : RailBank) : PowerState → Prop
  | .g3 | .g3s5 | .s5 | .s5s3 | .s5g3 => Entered (· = .off) plan.rails b
  | .s3 =>
    Entered (· = .off) plan.upperRails b ∧
      (forcing = false → Entered (· = .on) (railsOf plan.primary) b)
  | .s3s5 => Entered (· = .off) plan.upperRails b
  | .s3s0 | .s0 => Entered (fun s => s = .on ∨ (s = .fault ∧ forcing = true)) plan.rails b
  | .s0s3 => True

theorem Agrees.latch {plan : PowerPlan} {forcing forcing' : Bool} {b : RailBank} {s : PowerState}
    (h : Agrees plan forcing b s) (kept : forcing = true → forcing' = true) :
    Agrees plan forcing' b s := by
  cases s <;> try exact h
  case s3 =>
    refine ⟨h.1, fun clear => h.2 ?_⟩
    cases forcing with
    | true => simp [kept rfl] at clear
    | false => rfl
  all_goals exact h.mono fun state => Or.imp_right (And.imp_right kept)

/-- Entries that turn from on to fault, and only while the latch is set, keep the agreement. -/
theorem Agrees.demoted {plan : PowerPlan} {forcing forcing' : Bool} {b b' : RailBank}
    {s : PowerState} (h : Agrees plan forcing b s) (kept : forcing = true → forcing' = true)
    (entries : ∀ rail, b'.state? rail = b.state? rail ∨
      (b.state? rail = some .on ∧ b'.state? rail = some .fault ∧ forcing' = true)) :
    Agrees plan forcing' b' s := by
  have off : ∀ rails, Entered (· = .off) rails b → Entered (· = .off) rails b' := by
    intro rails hoff rail hr
    obtain ⟨state, hs, rfl⟩ := hoff rail hr
    rcases entries rail with same | ⟨on, _⟩
    · exact ⟨.off, same.trans hs, rfl⟩
    · rw [hs] at on
      cases on
  have up : Entered (fun s => s = .on ∨ (s = .fault ∧ forcing' = true)) plan.rails b →
      Entered (fun s => s = .on ∨ (s = .fault ∧ forcing' = true)) plan.rails b' := by
    intro hup rail hr
    obtain ⟨state, hs, hp⟩ := hup rail hr
    rcases entries rail with same | ⟨_, fault, latch⟩
    · exact ⟨state, same.trans hs, hp⟩
    · exact ⟨.fault, fault, .inr ⟨rfl, latch⟩⟩
  have h' : Agrees plan forcing' b s := h.latch kept
  cases s with
  | g3 | g3s5 | s5 | s5s3 | s5g3 | s3s5 => exact off _ h'
  | s3 =>
    refine ⟨off _ h'.1, fun clear rail hr => ?_⟩
    obtain ⟨state, hs, hon⟩ := h'.2 clear rail hr
    rcases entries rail with same | ⟨_, _, latch⟩
    · exact ⟨state, same.trans hs, hon⟩
    · rw [clear] at latch
      cases latch
  | s3s0 | s0 => exact up h'
  | s0s3 => trivial

theorem primary_apart {plan : PowerPlan} (distinct : plan.rails.Nodup) :
    ∀ rail ∈ railsOf plan.primary, rail ∉ plan.upperRails :=
  fun rail hp hu => (List.nodup_append.1 distinct).2.2 rail hp rail hu rfl

theorem upper_apart {plan : PowerPlan} (distinct : plan.rails.Nodup) :
    ∀ rail ∈ plan.upperRails, rail ∉ railsOf plan.primary :=
  fun rail hu hp => primary_apart distinct rail hp hu

variable [Board σ]

structure Sound (plan : PowerPlan) (t : PowerTrain σ) : Prop where
  plan_eq : t.sequencer.plan = plan
  known : Knows plan.rails t.rig.rails
  latched : t.Latched
  agrees : Agrees plan t.forcing t.rig.rails t.state

theorem next_agrees (m : Sequencer) (r : Rig σ) (distinct : m.plan.rails.Nodup)
    (known : Knows m.plan.rails r.rails)
    (latched : isDescent m.state = true → m.forcingShutdown = true)
    (h : Agrees m.plan m.forcingShutdown r.rails m.state) :
    Agrees m.plan (m.next r).2.1.forcingShutdown (m.next r).2.2.rails (m.next r).1 := by
  have knownPrimary : Knows (railsOf m.plan.primary) r.rails := known.sub (by simp [PowerPlan.rails])
  have knownUpper : Knows m.plan.upperRails r.rails := known.sub (by simp [PowerPlan.rails])
  -- What the work of a state enters is apart from what the agreement says of the other group.
  cases hs : m.state <;> simp only [Sequencer.next, hs] <;> rw [hs] at h
  case g3 => split <;> exact h
  case g3s5 => exact h
  case s5 => split <;> exact h
  case s5s3 =>
    obtain ⟨w, ⟨next, hm, on⟩ | ⟨next, _, _⟩⟩ := m.raisePrimary_cases r
    · rw [next]
      have down := (RailBank.entered_append.1 h).2
      exact ⟨down.within w (upper_apart distinct), fun _ => on⟩
    · rw [next]
      trivial
  case s3 =>
    cases forcing : m.forcingShutdown with
    | true =>
      rw [m.raiseUpper_forced r forcing]
      exact h.1
    | false =>
      obtain ⟨w, ⟨next, _, on⟩ | ⟨next, _, _, same | off⟩⟩ := m.raiseUpper_cases r forcing
      · rw [next]
        have primary := (h.2 forcing).within w (primary_apart distinct)
        have upper := on (List.nodup_append.1 distinct).2.1
        exact (RailBank.entered_append.2 ⟨primary, upper⟩).mono fun _ => Or.inl
      · rw [next, same]
        exact h.1
      · rw [next]
        exact off knownUpper
  case s3s0 =>
    obtain ⟨same, ⟨next, hm⟩ | ⟨next, _, _⟩⟩ := m.awaitAp_cases r
    · rw [next, hm, same]
      exact h
    · rw [next]
      trivial
  case s0 =>
    obtain ⟨same, ⟨next, hm, _⟩ | ⟨next, _, _⟩⟩ := m.watchAp_cases r
    · rw [next, hm, same]
      exact h
    · rw [next]
      trivial
  case s0s3 =>
    obtain ⟨next, _, kept, _, off⟩ := m.suspend_cases r
    rw [next, kept (latched (by rw [hs]; rfl))]
    refine ⟨off knownUpper, fun clear => ?_⟩
    cases clear
  case s3s5 =>
    obtain ⟨next, _, w, off⟩ := m.lowerPrimary_cases r
    rw [next]
    exact RailBank.entered_append.2
      ⟨off knownPrimary, h.within w (upper_apart distinct)⟩
  case s5g3 => exact h

/-- Only a step of the sequencer and a fault check write in the book; the first touches the
rails of the plan only. -/
theorem next_known (m : Sequencer) (r : Rig σ) (rails : List RailId) (known : Knows rails r.rails) :
    Knows rails (m.next r).2.2.rails := by
  cases hs : m.state <;> simp only [Sequencer.next, hs]
  case g3 => split <;> exact known
  case g3s5 | s5 | s5g3 => exact known
  case s5s3 => exact known.within (m.raisePrimary_cases r).1
  case s3 =>
    cases forcing : m.forcingShutdown with
    | true =>
      rw [m.raiseUpper_forced r forcing]
      exact known
    | false => exact known.within (m.raiseUpper_cases r forcing).1
  case s3s0 =>
    rw [(m.awaitAp_cases r).1]
    exact known
  case s0 =>
    rw [(m.watchAp_cases r).1]
    exact known
  case s0s3 => exact known.within (m.suspend_cases r).2.2.2.1
  case s3s5 => exact known.within (m.lowerPrimary_cases r).2.2.1

theorem handle_sound {plan : PowerPlan} (distinct : plan.rails.Nodup) (t : PowerTrain σ)
    (h : Sound plan t) : Sound plan (t.apply .handle) := by
  obtain ⟨rfl, known, latched, agrees⟩ := h
  refine ⟨t.sequencer.handle_plan t.rig, ?_, t.apply_latched .handle latched, ?_⟩
  · simp only [apply, Sequencer.handle_rails]
    exact next_known t.sequencer t.rig _ known
  · simp only [apply, state, forcing, Sequencer.handle_rails, Sequencer.handle_state,
      Sequencer.handle_forcing]
    exact next_agrees t.sequencer t.rig distinct known latched agrees

theorem serviceFaults_sound {plan : PowerPlan} (t : PowerTrain σ) (h : Sound plan t) :
    Sound plan (t.apply .serviceFaults) := by
  obtain ⟨plan_eq, known, latched, agrees⟩ := h
  have latched' := t.apply_latched .serviceFaults latched
  obtain ⟨hs, kept⟩ := t.apply_state .serviceFaults (by simp)
  by_cases pending : t.rig.rails.faultCheckPending
  · let asked : Rig σ := { t.rig with rails := { t.rig.rails with faultCheckPending := false } }
    obtain ⟨w, entries⟩ := Rig.demoteFaulted_entries t.rig.rails.rails asked
    change Within _ asked.rails t.rig.runFaultCheck.2.rails at w
    have rails : (t.apply .serviceFaults).rig.rails = t.rig.runFaultCheck.2.rails := by
      simp only [apply, serviceFaults, pending, ↓reduceIte]
      split <;> rfl
    have plan' : (t.apply .serviceFaults).sequencer.plan = plan := by
      simp only [apply, serviceFaults, pending, ↓reduceIte]
      split
      · exact plan_eq
      · exact (Sequencer.forceShutdown_serves ..).plan.trans plan_eq
    have latch : t.rig.runFaultCheck.1 ≠ [] → (t.apply .serviceFaults).forcing = true := by
      intro found
      simp only [apply, serviceFaults, pending, ↓reduceIte, List.isEmpty_iff, found]
      exact Sequencer.forceShutdown_forcing ..
    refine ⟨plan', ?_, latched', ?_⟩
    · have known' : Knows plan.rails asked.rails := known
      rw [rails]
      exact known'.within w
    · rw [hs, rails]
      refine agrees.demoted kept fun rail => ?_
      rcases entries rail with same | ⟨on, fault, found⟩
      · exact .inl same
      · exact .inr ⟨on, fault, latch found⟩
  · have idle : t.apply .serviceFaults = t := by
      simp [apply, serviceFaults, pending]
    rw [idle]
    exact ⟨plan_eq, known, latched, agrees⟩

theorem apply_sound {plan : PowerPlan} (distinct : plan.rails.Nodup) (t : PowerTrain σ)
    (q : Request σ) (h : Sound plan t) : Sound plan (t.apply q) := by
  have latched := t.apply_latched q h.latched
  cases q with
  | handle => exact handle_sound distinct t h
  | serviceFaults => exact serviceFaults_sound t h
  | forceShutdown reason time =>
    have serves := t.sequencer.forceShutdown_serves reason time t.rig.plant.journal
    refine ⟨serves.plan.trans h.plan_eq, h.known, latched, ?_⟩
    rw [(t.apply_state (.forceShutdown reason time) (by simp)).1]
    exact h.agrees.latch fun _ => Sequencer.forceShutdown_forcing ..
  | exitHardOff =>
    have serves := t.sequencer.exitHardOff_serves
    refine ⟨serves.plan.trans h.plan_eq, h.known, latched, ?_⟩
    rw [(t.apply_state .exitHardOff (by simp)).1]
    exact h.agrees.latch fun set => t.sequencer.exitHardOff_forcing.trans set
  | reset reason =>
    have serves := t.sequencer.reset_serves reason t.rig.plant
    refine ⟨serves.plan.trans h.plan_eq, h.known, latched, ?_⟩
    rw [(t.apply_state (.reset reason) (by simp)).1]
    exact h.agrees.latch fun set => (t.sequencer.reset_forcing reason t.rig.plant).trans set
  | setButtonHeld _ | requestFaultCheck | outside _ =>
    exact ⟨h.plan_eq, h.known, latched, h.agrees⟩

omit [Board σ] in
theorem fresh_sound (table : List Rail) (timing : RailTiming) (plan : PowerPlan)
    (timings : PowerTimings) (plant : Plant σ)
    (listed : ∀ rail ∈ plan.rails, rail.index < (table.take Rail.limit).length) :
    Sound plan (fresh table timing plan timings plant) where
  plan_eq := rfl
  known rail hr := by
    simpa [fresh, RailBank.row?, RailBank.state?, RailBank.ofTable] using listed rail hr
  latched := fresh_latched table timing plan timings plant
  agrees rail hr := by
    have hlt := listed rail hr
    refine ⟨.off, ?_, rfl⟩
    simp only [fresh, RailBank.state?, RailBank.ofTable]
    rw [List.getElem?_map, List.getElem?_eq_getElem hlt]
    rfl

/-- From all rails off, and with a plan that names every rail once, the book agrees with the power
state after every run of requests, on every board and whatever happens on it in between. -/
theorem run_agrees (table : List Rail) (timing : RailTiming) (plan : PowerPlan)
    (timings : PowerTimings) (plant : Plant σ) (distinct : plan.rails.Nodup)
    (listed : ∀ rail ∈ plan.rails, rail.index < (table.take Rail.limit).length)
    (requests : List (Request σ)) :
    let t := (fresh table timing plan timings plant).run requests
    Agrees plan t.forcing t.rig.rails t.state :=
  (run_invariant (Sound plan) (apply_sound distinct) _ requests
    (fresh_sound table timing plan timings plant listed)).agrees

theorem carrier_agrees_in_s0 :
    let t := (fresh Carrier.rails RailTiming.builtIn Carrier.plan PowerTimings.builtIn
      ⟨Carrier.bench, Journal.fresh⟩).run (.exitHardOff :: List.replicate 6 .handle)
    t.state = .s0 ∧ t.forcing = false ∧ Agrees Carrier.plan t.forcing t.rig.rails t.state :=
  ⟨by decide +kernel, by decide +kernel,
    run_agrees _ _ _ _ _ (by decide) (by decide) _⟩

end BoardWarden.PowerTrain
