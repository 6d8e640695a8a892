import BoardWarden.Bench.Basic
import BoardWarden.Carrier
import BoardWarden.Proofs.Power.Handlers

set_option autoImplicit false

namespace BoardWarden

def Carrier.bench : Bench :=
  (Bench.fresh 32 Instant.zero Carrier.fanCount).change Bench.referenceWiring

structure PowerTrain (σ : Type) where
  sequencer : Sequencer
  rig : Rig σ

namespace PowerTrain

variable {σ : Type}

def state (t : PowerTrain σ) : PowerState := t.sequencer.state

def forcing (t : PowerTrain σ) : Bool := t.sequencer.forcingShutdown

def fresh (table : List Rail) (timing : RailTiming) (plan : PowerPlan) (timings : PowerTimings)
    (plant : Plant σ) : PowerTrain σ :=
  ⟨Sequencer.fresh plan timings, ⟨plant, RailBank.ofTable table timing⟩⟩

inductive Request (σ : Type) where
  /-- One step of the sequencer. -/
  | handle
  /-- Answers a pending fault check. -/
  | serviceFaults
  | forceShutdown (reason : ShutdownReason) (time : Instant)
  | exitHardOff
  | setButtonHeld (held : Bool)
  | reset (reason : ResetReason)
  | requestFaultCheck
  /-- The board goes on by itself, and others write to the journal. -/
  | outside (plant : Plant σ)

def forceShutdown (t : PowerTrain σ) (reason : ShutdownReason) (time : Instant) : PowerTrain σ :=
  let forced := t.sequencer.forceShutdown reason time t.rig.plant.journal
  ⟨forced.1, { t.rig with plant := { t.rig.plant with journal := forced.2 } }⟩

variable [Board σ]

def serviceFaults (t : PowerTrain σ) : PowerTrain σ :=
  if t.rig.rails.faultCheckPending then
    let checked := t.rig.runFaultCheck
    if checked.1.isEmpty then { t with rig := checked.2 }
    else { t with rig := checked.2 }.forceShutdown .supplyFault checked.2.plant.now
  else t

def apply (t : PowerTrain σ) : Request σ → PowerTrain σ
  | .handle => ⟨(t.sequencer.handle t.rig).1, (t.sequencer.handle t.rig).2⟩
  | .serviceFaults => t.serviceFaults
  | .forceShutdown reason time => t.forceShutdown reason time
  | .exitHardOff => { t with sequencer := t.sequencer.exitHardOff.2 }
  | .setButtonHeld held => { t with sequencer := t.sequencer.setButtonHeld held }
  | .reset reason =>
    let done := t.sequencer.reset reason t.rig.plant
    ⟨done.2.1, { t.rig with plant := done.2.2 }⟩
  | .requestFaultCheck => { t with rig := { t.rig with rails := t.rig.rails.requestFaultCheck } }
  | .outside plant => { t with rig := { t.rig with plant } }

def run (t : PowerTrain σ) : List (Request σ) → PowerTrain σ
  | [] => t
  | q :: rest => (t.apply q).run rest

theorem run_append (t : PowerTrain σ) (qs rs : List (Request σ)) :
    t.run (qs ++ rs) = (t.run qs).run rs := by
  induction qs generalizing t with
  | nil => rfl
  | cons q rest ih => exact ih (t.apply q)

theorem run_concat (t : PowerTrain σ) (qs : List (Request σ)) (q : Request σ) :
    t.run (qs ++ [q]) = (t.run qs).apply q := by
  rw [run_append]
  rfl

theorem run_invariant (I : PowerTrain σ → Prop) (step : ∀ t q, I t → I (t.apply q))
    (t : PowerTrain σ) (qs : List (Request σ)) (start : I t) : I (t.run qs) := by
  induction qs generalizing t with
  | nil => exact start
  | cons q rest ih => exact ih _ (step t q start)

/-- What one step of the sequencer may make of its state and its latch. -/
inductive Moves : PowerState → Bool → PowerState → Bool → Prop where
  | rest (forcing : Bool) : Moves .g3 forcing .g3 forcing
  | leave (forcing : Bool) : Moves .g3 forcing .g3s5 forcing
  | clear (forcing : Bool) : Moves .g3s5 forcing .s5 false
  | climb : Moves .s5 false .s5s3 false
  | sink : Moves .s5 true .s5g3 true
  | primaryUp (forcing : Bool) : Moves .s5s3 forcing .s3 forcing
  | primaryFailed (forcing : Bool) : Moves .s5s3 forcing .s0s3 true
  | upperUp : Moves .s3 false .s3s0 false
  | turnBack (forcing : Bool) : Moves .s3 forcing .s3s5 true
  | apUp (forcing : Bool) : Moves .s3s0 forcing .s0 forcing
  | apFailed (forcing : Bool) : Moves .s3s0 forcing .s0s3 true
  | stay : Moves .s0 false .s0 false
  | suspend (forcing : Bool) : Moves .s0 forcing .s0s3 true
  | suspended (forcing held : Bool) : Moves .s0s3 forcing .s3 (forcing || held)
  | lowered (forcing : Bool) : Moves .s3s5 forcing .s5 forcing
  | off (forcing : Bool) : Moves .s5g3 forcing .g3 forcing

theorem next_moves (m : Sequencer) (r : Rig σ) :
    Moves m.state m.forcingShutdown (m.next r).1 (m.next r).2.1.forcingShutdown := by
  cases hs : m.state <;> simp only [Sequencer.next, hs]
  case g3 =>
    split
    · exact .leave _
    · exact .rest _
  case g3s5 => exact .clear _
  case s5 =>
    cases m.forcingShutdown with
    | true => exact .sink
    | false => exact .climb
  case s5s3 =>
    rcases (m.raisePrimary_cases r).2 with ⟨h, hm, _⟩ | ⟨h, _, hf⟩
    · rw [h, hm]
      exact .primaryUp _
    · rw [h, hf]
      exact .primaryFailed _
  case s3 =>
    cases hf : m.forcingShutdown with
    | true =>
      rw [m.raiseUpper_forced r hf, hf]
      exact .turnBack _
    | false =>
      rcases (m.raiseUpper_cases r hf).2 with ⟨h, hm, _⟩ | ⟨h, _, hset, _⟩
      · rw [h, hm, hf]
        exact .upperUp
      · rw [h, hset]
        exact .turnBack _
  case s3s0 =>
    rcases (m.awaitAp_cases r).2 with ⟨h, hm⟩ | ⟨h, _, hf⟩
    · rw [h, hm]
      exact .apUp _
    · rw [h, hf]
      exact .apFailed _
  case s0 =>
    rcases (m.watchAp_cases r).2 with ⟨h, hm, hf⟩ | ⟨h, _, hf⟩
    · rw [h, hm, hf]
      exact .stay
    · rw [h, hf]
      exact .suspend _
  case s0s3 =>
    obtain ⟨h, _, kept, _⟩ := m.suspend_cases r
    rw [h]
    cases hf : m.forcingShutdown with
    | true =>
      rw [kept hf]
      exact .suspended true true
    | false => exact .suspended false _
  case s3s5 =>
    obtain ⟨h, hm, _⟩ := m.lowerPrimary_cases r
    rw [h, hm]
    exact .lowered _
  case s5g3 => exact .off _

theorem handle_moves (t : PowerTrain σ) :
    Moves t.state t.forcing (t.apply .handle).state (t.apply .handle).forcing := by
  have h := next_moves t.sequencer t.rig
  rw [← Sequencer.handle_state, ← Sequencer.handle_forcing] at h
  exact h

omit [Board σ] in
theorem forceShutdown_state (t : PowerTrain σ) (reason : ShutdownReason) (time : Instant) :
    (t.forceShutdown reason time).state = t.state :=
  (Sequencer.forceShutdown_serves _ _ _ _).state

/-- Apart from a step of the sequencer, nothing changes the state and nothing clears the latch. -/
theorem apply_state (t : PowerTrain σ) (q : Request σ) (hq : q ≠ .handle) :
    (t.apply q).state = t.state ∧ (t.forcing = true → (t.apply q).forcing = true) := by
  cases q with
  | handle => exact absurd rfl hq
  | serviceFaults =>
    simp only [apply, serviceFaults]
    split
    · split
      · exact ⟨rfl, id⟩
      · exact ⟨forceShutdown_state _ _ _, fun _ => Sequencer.forceShutdown_forcing ..⟩
    · exact ⟨rfl, id⟩
  | forceShutdown reason time =>
    exact ⟨forceShutdown_state t reason time, fun _ => Sequencer.forceShutdown_forcing ..⟩
  | exitHardOff =>
    exact ⟨t.sequencer.exitHardOff_serves.state, fun h => t.sequencer.exitHardOff_forcing.trans h⟩
  | setButtonHeld held => exact ⟨rfl, id⟩
  | reset reason =>
    exact ⟨(t.sequencer.reset_serves reason t.rig.plant).state,
      fun h => (t.sequencer.reset_forcing reason t.rig.plant).trans h⟩
  | requestFaultCheck => exact ⟨rfl, id⟩
  | outside plant => exact ⟨rfl, id⟩

def isDescent : PowerState → Bool
  | .s0s3 | .s3s5 | .s5g3 => true
  | _ => false

def Latched (t : PowerTrain σ) : Prop := isDescent t.state = true → t.forcing = true

theorem Moves.descent_forcing {s s' : PowerState} {f f' : Bool} (h : Moves s f s' f')
    (hd : isDescent s' = true) : f' = true := by
  cases h <;> first | rfl | cases hd

theorem apply_latched (t : PowerTrain σ) (q : Request σ) (h : t.Latched) :
    (t.apply q).Latched := by
  by_cases hq : q = .handle
  · subst hq
    exact t.handle_moves.descent_forcing
  · obtain ⟨hs, hf⟩ := t.apply_state q hq
    intro hd
    rw [hs] at hd
    exact hf (h hd)

theorem run_latched (t : PowerTrain σ) (qs : List (Request σ)) (h : t.Latched) :
    (t.run qs).Latched :=
  run_invariant Latched apply_latched t qs h

omit [Board σ] in
theorem fresh_latched (table : List Rail) (timing : RailTiming) (plan : PowerPlan)
    (timings : PowerTimings) (plant : Plant σ) : (fresh table timing plan timings plant).Latched :=
  fun hd => by cases hd

end PowerTrain

end BoardWarden
