import BoardWarden.Controller.View
import BoardWarden.Proofs.Controller.Fields
import BoardWarden.Proofs.Cooling.Tick
import BoardWarden.Proofs.Fan.Room

set_option autoImplicit false

/-!
A controller whose built-in bounds are in order, whose fans have room in their words and whose delays
have a sum never stops: stored settings keep it so, nothing else touches it, and there is no other
reason to stop.
-/

namespace BoardWarden

/-- What a controller needs of its configuration to never stop. -/
structure ControllerConfig.Ordered (config : ControllerConfig) : Prop where
  limits : config.fanLimits.valid = true
  fan : config.fan.Roomy
  pid : config.cooling.pid.InOrder
  delays : config.cooling.forceDelay.Fits config.cooling.overrideOffset

theorem ControllerConfig.builtIn_ordered : ControllerConfig.builtIn.Ordered :=
  ⟨by decide, by decide, by decide +kernel, by decide⟩

namespace Controller

open Settings (Store)

variable {σ : Type} [Board σ]

structure Ordered (c : Controller σ) : Prop where
  fans : c.fans.InRange
  pid : c.cooling.config.pid.InOrder
  delays : c.config.cooling.forceDelay.Fits c.config.cooling.overrideOffset

omit [Board σ] in
theorem Ordered.of_same {c c' : Controller σ} (h : c.Ordered) (fans : c'.fans.InRange)
    (cooling : c'.cooling.config = c.cooling.config) (config : c'.config = c.config) : c'.Ordered :=
  ⟨fans, by rw [cooling]; exact h.pid, by rw [config]; exact h.delays⟩

omit [Board σ] in
theorem Asks.ordered {c c' : Controller σ} (asks : Asks c c') (h : c.Ordered) : c'.Ordered :=
  h.of_same (by rw [asks.fans]; exact h.fans) (by rw [asks.cooling]) asks.config

omit [Board σ] in
theorem fresh_ordered (layout : BoardLayout) (fanCount : Nat) {config : ControllerConfig} (board : σ)
    (h : config.Ordered) : (fresh layout fanCount config board).Ordered :=
  ⟨FanBank.ofCount_inRange fanCount h.limits h.fan, h.pid, h.delays⟩

section Limits

theorem setFans_limits (on : Bool) (fans : List FanId) (b : FanBank) (p : Plant σ) :
    (setFans on fans b p).1.limits = b.limits := by
  induction fans generalizing b p with
  | nil => rfl
  | cons fan rest ih =>
    simp only [setFans]
    rw [ih, FanBank.setEnabled_limits]

omit [Board σ] in
theorem releaseFans_limits (fans : List FanId) (b : FanBank) :
    (releaseFans fans b).limits = b.limits := by
  induction fans generalizing b with
  | nil => rfl
  | cons fan rest ih =>
    simp only [releaseFans]
    rw [ih]
    exact b.modify_limits fan _ fun _ => rfl

theorem fansWorked_limits (c : Controller σ) (time : Instant) :
    (c.fansWorked time).fans.limits = c.fans.limits := by
  simp only [fansWorked]
  rw [FanBank.controlTick_limits, FanBank.healthTick_limits, c.fanPowerGood_fields.2.2.2.2]

theorem followed_limits (c : Controller σ) (tick : CoolingTick) (delay : Span) :
    (c.followed tick delay).fans.limits = c.fans.limits := by
  simp only [followed, followRecovery, recover]
  repeat' split
  all_goals first
    | rfl
    | exact releaseFans_limits _ _

end Limits

section InRange

theorem setFans_inRange (on : Bool) (fans : List FanId) {b : FanBank} (p : Plant σ) (h : b.InRange) :
    (setFans on fans b p).1.InRange := by
  induction fans generalizing b p with
  | nil => exact h
  | cons fan rest ih => exact ih _ (h.setEnabled fan on p)

theorem overrideFans_inRange (duty : Nat) (fans : List FanId) {b : FanBank} (p : Plant σ)
    (h : b.InRange) : (overrideFans duty fans b p).1.InRange := by
  induction fans generalizing b p with
  | nil => exact h
  | cons fan rest ih => exact ih _ (((h.setMode fan .manual).setEnabled fan true p).setDuty fan duty _)

omit [Board σ] in
theorem releaseFans_inRange (fans : List FanId) {b : FanBank} (h : b.InRange) :
    (releaseFans fans b).InRange := by
  induction fans generalizing b with
  | nil => exact h
  | cons fan rest ih => exact ih (h.setMode fan .rpm)

variable {c : Controller σ} (h : c.fans.InRange)

include h

theorem switchFans_inRange (origin : PowerState) : (c.switchFans origin).fans.InRange := by
  simp only [switchFans, disableFans]
  repeat' split
  all_goals first
    | exact h
    | exact setFans_inRange _ _ _ h

theorem runAction_inRange (action : DeferredAction) : (c.runAction action).fans.InRange := by
  cases action with
  | forceShutdown | thermalForceShutdown => exact h
  | forceReset =>
    simp only [runAction, runReset]
    split <;> exact h
  | thermalFanOverride =>
    simp only [runAction, runFanOverride]
    split
    · exact h
    · exact overrideFans_inRange _ _ _ h

theorem fansWorked_inRange (time : Instant) : (c.fansWorked time).fans.InRange := by
  simp only [fansWorked]
  refine (FanBank.InRange.healthTick ?_ _ time _).controlTick _ time _
  rw [c.fanPowerGood_fields.2.2.2.2]
  exact h

theorem fansFit_of_inRange (time : Instant) : c.fansFit time = true := by
  refine (FanBank.InRange.healthTick ?_ _ time _).controlFits _ time _
  rw [c.fanPowerGood_fields.2.2.2.2]
  exact h

theorem followed_inRange (tick : CoolingTick) (delay : Span) :
    (c.followed tick delay).fans.InRange := by
  simp only [followed, followRecovery, recover]
  repeat' split
  all_goals first
    | exact h
    | exact releaseFans_inRange _ h

end InRange

section Inputs

variable (c : Controller σ)

theorem runAction_fields (action : DeferredAction) :
    (c.runAction action).cooling = c.cooling ∧ (c.runAction action).config = c.config := by
  cases action with
  | forceShutdown | thermalForceShutdown => exact ⟨rfl, rfl⟩
  | forceReset =>
    simp only [runAction, runReset]
    split <;> exact ⟨rfl, rfl⟩
  | thermalFanOverride =>
    simp only [runAction, runFanOverride]
    split <;> exact ⟨rfl, rfl⟩

theorem runDue_cooling (count : Nat) : (runDue count c).2.cooling = c.cooling := by
  induction count generalizing c with
  | zero => rfl
  | succ count ih =>
    simp only [runDue]
    split
    · rfl
    · exact (ih _).trans (runAction_fields _ _).1

theorem serviceFaults_config : c.serviceFaults.2.config = c.config := by
  simp only [serviceFaults]
  repeat' split
  all_goals rfl

variable {c}

theorem Ordered.stepPower (h : c.Ordered) : c.stepPower.Ordered := by
  have checked : c.work.fans = c.fans := c.serviceFaults_fields.2.2.2.2.2
  have pulled := c.work.pullThermalForward_fields.2.2.2
  refine h.of_same ?_ (congrArg Cooling.config c.stepPower_cooling) ?_
  · rw [stepPower_work]
    refine switchFans_inRange ?_ _
    rw [pulled, checked]
    exact h.fans
  · rw [stepPower_work, (switchFans_serves _ _).2, c.work.pullThermalForward_serves.2]
    exact c.serviceFaults_config

theorem Ordered.runDue (count : Nat) (h : c.Ordered) : (runDue count c).2.Ordered := by
  induction count generalizing c with
  | zero => exact h
  | succ count ih =>
    simp only [Controller.runDue]
    split
    · exact h
    · rename_i action agenda _
      let taken : Controller σ := { c with agenda }
      obtain ⟨cooling, config⟩ := taken.runAction_fields action
      have fans : (taken.runAction action).fans.InRange :=
        runAction_inRange (c := taken) h.fans action
      exact ih (h.of_same fans (congrArg Cooling.config cooling) config)

theorem Ordered.init (h : c.Ordered) (store : Store) (reset : ResetFlags) :
    (c.init store reset).Ordered := by
  obtain ⟨j, loaded⟩ := loadSettings_fans { c with rig := c.rig.adoptLive } store c.now
  have fans := h.fans.loadLimits store c.now j
  rw [← loaded] at fans
  refine h.of_same ?_ (c.init_fields store reset).2.2.2 (c.init_config store reset)
  simp only [Controller.init]
  split
  · exact setFans_inRange _ _ _ fans
  · exact fans

theorem Ordered.applyDemand (h : c.Ordered) (demand : Option Nat) :
    ∃ fans, c.applyDemand demand = .ok { c with fans } ∧ fans.InRange := by
  cases demand with
  | none => exact ⟨c.fans, rfl, h.fans⟩
  | some percent =>
    obtain ⟨fans, asked, inside⟩ := h.fans.demandWithinWords percent c.plant
    simp only [Controller.applyDemand, asked]
    exact ⟨fans, rfl, inside⟩

theorem Ordered.tickSecond (h : c.Ordered) :
    ∃ tick c', c.tickSecond = .ok (tick, c') ∧ c'.Ordered := by
  obtain ⟨⟨tick, cooling, p⟩, ticked⟩ := c.cooling.tick_total c.coolingInputs c.now c.plant h.pid
  have config : cooling.config = c.cooling.config := Cooling.tick_config _ _ _ _ _ _ _ ticked
  let cooled : Controller σ := { c.withPlant p with cooling }
  have ordered : cooled.Ordered := h.of_same h.fans config rfl
  obtain ⟨fans, asked, inside⟩ := ordered.applyDemand tick.demand
  let d : Controller σ := { cooled with fans }
  obtain ⟨delay, followed⟩ := d.followTick_of_fits tick fun _ => h.delays
  have after := followed_inRange inside (c := d) tick delay
  have fanned : (d.followed tick delay).tickFans c.now =
      .ok ((d.followed tick delay).fansWorked c.now) := by
    rw [tickFans_eq, if_pos (fansFit_of_inRange after c.now)]
  refine ⟨tick, (d.followed tick delay).fansWorked c.now, ?_, ordered.of_same
    (fansWorked_inRange after c.now) ?_ ?_⟩
  · rw [tickSecond_of_stages ticked asked followed, fanned]
    rfl
  · rw [(fansWorked_fields _ _).2.2.1, (d.followed_fields tick delay).2.2.2]
  · exact (fansWorked_serves _ _).2.trans (followed_config d tick delay)

theorem Ordered.command (h : c.Ordered) (fan : FanId) (command : FanCommand) :
    ∃ c', c.command fan command = .ok c' ∧ c'.Ordered := by
  cases command with
  | mode mode => exact ⟨_, rfl, h.of_same (h.fans.setMode fan mode) rfl rfl⟩
  | enable on => exact ⟨_, rfl, h.of_same (h.fans.setEnabled fan on c.plant) rfl rfl⟩
  | duty percent => exact ⟨_, rfl, h.of_same (h.fans.setDuty fan percent c.plant) rfl rfl⟩
  | follow follows => exact ⟨_, rfl, h.of_same (h.fans.setFollowsDemand fan follows) rfl rfl⟩
  | target rpm =>
    obtain ⟨fans, aimed, inside⟩ := h.fans.setTarget fan rpm
    simp only [Controller.command, aimed]
    exact ⟨_, rfl, h.of_same inside rfl rfl⟩

theorem Ordered.apply (h : c.Ordered) (input : Input σ) :
    ∃ c', c.apply input = .ok c' ∧ c'.Ordered := by
  cases input with
  | init store reset => exact ⟨_, rfl, h.init store reset⟩
  | powerButton pressed time => exact ⟨_, rfl, (c.powerButtonChanged_asks pressed time).ordered h⟩
  | resetButton pressed time => exact ⟨_, rfl, (c.resetButtonChanged_asks pressed time).ordered h⟩
  | watchdog | feedback | powerOn | shutDown | reset | wait | outside =>
    exact ⟨_, rfl, h.of_same h.fans rfl rfl⟩
  | faults =>
    obtain ⟨_, _, _, cooling, _, fans⟩ := c.serviceFaults_fields
    exact ⟨_, rfl, h.of_same (fans ▸ h.fans) (congrArg Cooling.config cooling) c.serviceFaults_config⟩
  | step => exact ⟨_, rfl, h.stepPower⟩
  | poll => exact ⟨_, rfl, h.runDue _⟩
  | tick =>
    obtain ⟨tick, c', ticked, ordered⟩ := h.tickSecond
    exact ⟨c', by simp only [Controller.apply, ticked]; rfl, ordered⟩
  | fan fan command => exact h.command fan command

theorem Run.ordered {A : Input σ → Controller σ → Prop} {start c : Controller σ}
    (h : Run A start c) (first : start.Ordered) : c.Ordered := by
  refine h.invariant Ordered (fun d input d' ordered applied _ => ?_) first
  obtain ⟨e, applied', ordered'⟩ := ordered.apply input
  rw [applied] at applied'
  cases applied'
  exact ordered'

theorem Ordered.panel (h : c.Ordered) : ∃ shown, c.panel = .ok shown := by
  simp only [Controller.panel, FanBank.snapshots_of_roomy h.fans.roomy]
  exact ⟨_, rfl⟩

end Inputs

end Controller

end BoardWarden
