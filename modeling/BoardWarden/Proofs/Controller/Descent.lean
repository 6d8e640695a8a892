import BoardWarden.Proofs.Controller.Feed
import BoardWarden.Proofs.Power.Routes

set_option autoImplicit false

namespace BoardWarden.Controller

open Settings (Store)

variable {σ : Type}

/-- Below S3 for good: the latch is set, and nobody asks for power. -/
structure Sunk (c : Controller σ) : Prop where
  state : c.powerState ∈ [PowerState.s5, .s5g3, .g3]
  latch : c.forcing = true
  unasked : c.sequencer.exitRequested = false

structure Stays (c c' : Controller σ) : Prop where
  state : c'.powerState = c.powerState
  latch : c.forcing = true → c'.forcing = true

theorem Stays.of_same {c c' : Controller σ} (h : c'.sequencer = c.sequencer) : Stays c c' :=
  ⟨by rw [powerState, h, powerState], fun latch => by rwa [forcing, h]⟩

theorem Stays.trans {c d e : Controller σ} (h : Stays c d) (h' : Stays d e) : Stays c e :=
  ⟨h'.state.trans h.state, fun latch => h'.latch (h.latch latch)⟩

theorem Sunk.stays {c c' : Controller σ} (h : c.Sunk) (stays : Stays c c')
    (unasked : c'.sequencer.exitRequested = false) : c'.Sunk :=
  ⟨by rw [stays.state]; exact h.state, stays.latch h.latch, unasked⟩

variable [Board σ]

theorem forceShutdown_stays (c : Controller σ) (reason : ShutdownReason) :
    Stays c (c.forceShutdown reason) :=
  ⟨(Sequencer.forceShutdown_serves ..).state, fun _ => Sequencer.forceShutdown_forcing ..⟩

omit [Board σ] in
theorem Asks.stays {c c' : Controller σ} (asks : Asks c c') : Stays c c' :=
  ⟨asks.state, fun h => asks.latch.trans h⟩

theorem reset_stays (c : Controller σ) (reason : ResetReason) : Stays c (c.reset reason).2 :=
  ⟨(c.sequencer.reset_serves reason c.plant).state,
    fun h => (c.sequencer.reset_forcing reason c.plant).trans h⟩

theorem serviceFaults_stays (c : Controller σ) : Stays c c.serviceFaults.2 :=
  ⟨c.serviceFaults_fields.1, c.serviceFaults_fields.2.1⟩

theorem runAction_stays (c : Controller σ) (action : DeferredAction) :
    Stays c (c.runAction action) := by
  cases action with
  | forceShutdown => exact c.forceShutdown_stays .powerButton
  | thermalForceShutdown => exact c.forceShutdown_stays .thermal
  | forceReset =>
    simp only [runAction, runReset]
    split
    · have asked := (c.reset_stays .watchdog).trans (requestPowerOn_asks _).stays
      exact ⟨asked.state, asked.latch⟩
    · exact c.reset_stays .resetButton
  | thermalFanOverride =>
    simp only [runAction, runFanOverride]
    split <;> exact .of_same rfl

theorem runDue_stays (count : Nat) (c : Controller σ) : Stays c (runDue count c).2 := by
  induction count generalizing c with
  | zero => exact .of_same rfl
  | succ count ih =>
    simp only [runDue]
    split
    · exact .of_same rfl
    · rename_i action agenda _
      have taken : Stays c { c with agenda } := .of_same rfl
      exact (taken.trans (runAction_stays _ action)).trans (ih _)

theorem tickSecond_stays (c c' : Controller σ) (tick : CoolingTick)
    (ticked : c.tickSecond = .ok (tick, c')) : Stays c c' := by
  obtain ⟨cooling, p, fans, delay, _, _, rfl⟩ := tickSecond_stages ticked
  let d : Controller σ := { c.withPlant p with cooling, fans }
  obtain ⟨state, latch, _⟩ := d.followed_fields tick delay
  have followed : Stays c (d.followed tick delay) := ⟨state, fun h => latch.trans h⟩
  exact followed.trans (.of_same ((d.followed tick delay).fansWorked_fields c.now).1)

theorem apply_stays (c c' : Controller σ) (input : Input σ) (still : input ≠ .step)
    (running : ∀ store reset, input ≠ .init store reset) (applied : c.apply input = .ok c') :
    Stays c c' := by
  cases input with
  | init store reset => exact absurd rfl (running store reset)
  | step => exact absurd rfl still
  | fan fan command => exact .of_same (c.command_fields fan command applied).1
  | powerButton pressed time =>
    cases applied
    exact (c.powerButtonChanged_asks pressed time).stays
  | resetButton pressed time =>
    cases applied
    exact (c.resetButtonChanged_asks pressed time).stays
  | powerOn =>
    cases applied
    exact c.requestPowerOn_asks.stays
  | watchdog | feedback | wait | outside =>
    cases applied
    exact .of_same rfl
  | shutDown reason =>
    cases applied
    exact c.forceShutdown_stays reason
  | reset reason =>
    cases applied
    exact c.reset_stays reason
  | faults =>
    cases applied
    exact c.serviceFaults_stays
  | poll =>
    cases applied
    exact runDue_stays _ c
  | tick =>
    obtain ⟨tick, ticked⟩ := apply_tick applied
    exact c.tickSecond_stays c' tick ticked

theorem stepPower_sequencer (c : Controller σ) : c.stepPower.sequencer = c.work.sequencer := by
  rw [stepPower_work, (switchFans_fields _ _).1, (pullThermalForward_fields _).1]

theorem stepPower_moves (c : Controller σ) :
    PowerTrain.Moves c.powerState c.serviceFaults.2.forcing c.stepPower.powerState
      c.stepPower.forcing := by
  have same := c.stepPower_sequencer
  have state : c.stepPower.powerState = c.work.powerState := congrArg Sequencer.state same
  have latch : c.stepPower.forcing = c.work.forcing := congrArg Sequencer.forcingShutdown same
  rw [state, latch]
  exact c.work_moves

theorem stepPower_unasked (c : Controller σ) (unasked : c.sequencer.exitRequested = false) :
    c.stepPower.sequencer.exitRequested = false := by
  rw [stepPower_sequencer]
  change (c.serviceFaults.2.sequencer.handle c.serviceFaults.2.rig).1.exitRequested = false
  rw [Sequencer.handle_exitRequested, c.serviceFaults_fields.2.2.1, unasked]
  rfl

theorem stepPower_rests (c : Controller σ) (home : c.powerState = .g3)
    (unasked : c.sequencer.exitRequested = false) : c.stepPower.powerState = .g3 := by
  by_contra left
  obtain ⟨state, _, asked, _⟩ := c.serviceFaults_fields
  rw [powerState, stepPower_sequencer] at left
  have request := c.serviceFaults.2.train.leave_g3 (state.trans home) left
  change c.serviceFaults.2.sequencer.exitRequested = true at request
  rw [asked, unasked] at request
  cases request

theorem init_state (c : Controller σ) (store : Store) (reset : ResetFlags) :
    (c.init store reset).powerState ∈ [PowerState.g3, .s0] := by
  have found := fun (m : Sequencer) rails autoboot (p : Plant σ) =>
    (m.chipsetInit_fields rails reset autoboot p).2.2
  simp only [init]
  split <;> exact found _ _ _ _

theorem apply_latched (c c' : Controller σ) (input : Input σ) (h : c.train.Latched)
    (applied : c.apply input = .ok c') : c'.train.Latched := by
  by_cases step : input = .step
  · subst step
    cases applied
    exact c.stepPower_moves.descent_forcing
  · by_cases running : ∀ store reset, input ≠ .init store reset
    · have stays := c.apply_stays c' input step running applied
      intro down
      change PowerTrain.isDescent c'.powerState = true at down
      rw [stays.state] at down
      exact stays.latch (h down)
    · simp only [ne_eq, not_forall, not_not] at running
      obtain ⟨store, reset, rfl⟩ := running
      cases applied
      intro down
      have state := c.init_state store reset
      change PowerTrain.isDescent (c.init store reset).powerState = true at down
      simp only [List.mem_cons, List.not_mem_nil, or_false] at state
      rcases state with hs | hs <;> rw [hs] at down <;> cases down

theorem Run.latched {A : Input σ → Controller σ → Prop} {start c : Controller σ}
    (run : Run A start c) (first : start.train.Latched) : c.train.Latched :=
  run.invariant (fun c => c.train.Latched)
    (fun c input c' h applied _ => c.apply_latched c' input h applied) first

theorem Sunk.step {c : Controller σ} (h : c.Sunk) : c.stepPower.Sunk := by
  have unasked := c.stepPower_unasked h.unasked
  have state := h.state
  have move := c.stepPower_moves
  have latch : c.serviceFaults.2.forcing = true := c.serviceFaults_fields.2.1 h.latch
  rw [latch] at move
  have rests := fun home => c.stepPower_rests home h.unasked
  have next : c.stepPower.powerState ∈ [PowerState.s5, .s5g3, .g3] ∧ c.stepPower.forcing = true := by
    generalize c.powerState = s, c.stepPower.powerState = s', c.stepPower.forcing = f
      at move state rests ⊢
    cases move with
    | rest | sink | off => exact ⟨by decide, rfl⟩
    | leave => cases rests rfl
    | _ => simp at state
  exact ⟨next.1, next.2, unasked⟩

/-- The states above S5 are left downwards through the lowering of the primary rails only. -/
def upper : List PowerState := [.s5s3, .s3, .s3s0, .s0, .s0s3, .s3s5]

theorem stepPower_upper (c : Controller σ) (high : c.powerState ∈ upper)
    (before : c.powerState ≠ .s3s5) : c.stepPower.powerState ∈ upper := by
  have move := c.stepPower_moves
  generalize c.powerState = s, c.stepPower.powerState = s', c.serviceFaults.2.forcing = f,
    c.stepPower.forcing = f' at move high before ⊢
  cases move with
  | lowered => exact absurd rfl before
  | rest | leave | clear | climb | sink | off => simp [upper] at high
  | _ => simp [upper]

/-- The states from G3 to S5, in which no step touches a rail. -/
def bottom : List PowerState := [.g3s5, .s5, .s5g3, .g3]

theorem stepPower_bottom (c : Controller σ) (low : c.powerState ∈ bottom) :
    c.stepPower.powerState ∈ bottom ∨ c.stepPower.powerState ∈ upper := by
  have move := c.stepPower_moves
  generalize c.powerState = s, c.stepPower.powerState = s', c.serviceFaults.2.forcing = f,
    c.stepPower.forcing = f' at move low ⊢
  cases move with
  | climb => exact .inr (by decide)
  | rest | leave | clear | sink | off => exact .inl (by decide)
  | _ => simp [bottom] at low

theorem stepPower_lowers (c : Controller σ) (last : c.powerState = .s3s5) :
    c.stepPower.powerState = .s5 := by
  have move := c.stepPower_moves
  rw [last] at move
  generalize c.serviceFaults.2.forcing = f, c.stepPower.powerState = s, c.stepPower.forcing = f'
    at move ⊢
  cases move
  rfl

end BoardWarden.Controller
