import BoardWarden.Controller.Basic

set_option autoImplicit false

/-!
The controller at work: requests and events from outside, the step of the power sequencer, the
actions of the agenda, and the work of each second.
-/

namespace BoardWarden.Controller

variable {σ : Type} [Board σ]

def requestPowerOn (c : Controller σ) : Bool × Controller σ :=
  let asked := c.sequencer.exitHardOff
  (asked.1, { c with sequencer := asked.2 })

def forceShutdown (c : Controller σ) (reason : ShutdownReason) : Controller σ :=
  let forced := c.sequencer.forceShutdownNow reason c.rig
  { c with sequencer := forced.1, rig := forced.2 }

def reset (c : Controller σ) (reason : ResetReason) : Bool × Controller σ :=
  let done := c.sequencer.reset reason c.plant
  (done.1, { c.withPlant done.2.2 with sequencer := done.2.1 })

def schedule (c : Controller σ) (action : DeferredAction) (now : Instant) (delay : Span) :
    Controller σ :=
  { c with agenda := c.agenda.schedule action now delay }

def cancel (c : Controller σ) (action : DeferredAction) : Controller σ :=
  { c with agenda := (c.agenda.cancel action).2 }

/-- A press while off asks for power; a press that is held long enough forces a shutdown. -/
def powerButtonChanged (c : Controller σ) (pressed : Bool) (now : Instant) : Controller σ :=
  let held := c.sequencer.setButtonHeld pressed
  if pressed then
    let asked := if held.state.isAnyOff then held.exitHardOff.2 else held
    { c with sequencer := asked }.schedule .forceShutdown now c.config.power.shutdownHold
  else { c with sequencer := held }.cancel .forceShutdown

def resetButtonChanged (c : Controller σ) (pressed : Bool) (now : Instant) : Controller σ :=
  if pressed then c.schedule .forceReset now c.config.power.resetButtonDelay
  else c.cancel .forceReset

def watchdogExpired (c : Controller σ) (now : Instant) : Controller σ :=
  { c with watchdogReset := true }.schedule .forceReset now c.config.power.watchdogDelay

def supplyFeedbackChanged (c : Controller σ) : Controller σ :=
  { c with rig := { c.rig with rails := c.rig.rails.requestFaultCheck } }

/-- Answers a pending fault check; a rail that had to be demoted forces a shutdown. -/
def serviceFaults (c : Controller σ) : Bool × Controller σ :=
  if c.rig.rails.faultCheckPending then
    let checked := c.rig.runFaultCheck
    if checked.1.isEmpty then (false, { c with rig := checked.2 })
    else (true, { c with rig := checked.2 }.forceShutdown .supplyFault)
  else (false, c)

/-- In G3 there is nothing left to force, so an armed thermal shutdown is due at once and the
fan override follows it. -/
def pullThermalForward (c : Controller σ) : Controller σ :=
  if c.powerState = .g3 && c.agenda.isPending .thermalForceShutdown then
    { c with
      agenda :=
        (c.agenda.reschedule .thermalForceShutdown c.now Span.zero).reschedule
          .thermalFanOverride c.now c.config.cooling.overrideOffset }
  else c

/-- A fan override that is still to come keeps the fans as they are. -/
def disableFans (c : Controller σ) : Controller σ :=
  if c.agenda.isPending .thermalFanOverride then c else c.enableFans false

def switchFans (c : Controller σ) (origin : PowerState) : Controller σ :=
  if c.powerState = origin then c
  else if c.powerState = .s0 then c.enableFans true
  else if c.powerState = .s5 && origin = .s3s5 then c.disableFans
  else c

/-- One step of the power sequencer, after any fault check. -/
def stepPower (c : Controller σ) : Controller σ :=
  let c : Controller σ := c.serviceFaults.2
  let origin := c.powerState
  let handled := c.sequencer.handle c.rig
  ({ c with sequencer := handled.1, rig := handled.2 }.pullThermalForward).switchFans origin

def stepUntil (goal : PowerState) : Nat → Controller σ → List PowerState × Controller σ
  | 0, c => ([], c)
  | count + 1, c =>
    let stepped := c.stepPower
    if stepped.powerState = goal then ([goal], stepped)
    else
      let others := stepUntil goal count stepped
      (stepped.powerState :: others.1, others.2)

def overrideFans (duty : Nat) : List FanId → FanBank → Plant σ → FanBank × Plant σ
  | [], b, p => (b, p)
  | fan :: rest, b, p =>
    let on := (b.setMode fan .manual).setEnabled fan true p
    let set := on.1.setDuty fan duty on.2
    overrideFans duty rest set.1 set.2

/-- Powers the fans and runs them all at the override duty. -/
def runFanOverride (c : Controller σ) : Controller σ :=
  let powered : Except RailError Unit × Rig σ :=
    match c.fanSupply with
    | none => (.ok (), c.rig)
    | some rail => c.rig.powerOn rail Span.zero c.config.cooling.fanSupplyTimeout
  match powered.1 with
  | .error _ => { c with rig := powered.2 }
  | .ok () =>
    let set := overrideFans c.config.cooling.overrideDuty c.fans.fans c.fans powered.2.plant
    { c with rig := { powered.2 with plant := set.2 }, fans := set.1 }

/-- A reset for the watchdog also asks for power, in case the AP is down. -/
def runReset (c : Controller σ) : Controller σ :=
  let done := (c.reset (if c.watchdogReset then .watchdog else .resetButton)).2
  if c.watchdogReset then { done.requestPowerOn.2 with watchdogReset := false } else done

def runAction (c : Controller σ) : DeferredAction → Controller σ
  | .forceShutdown => c.forceShutdown .powerButton
  | .forceReset => c.runReset
  | .thermalForceShutdown => c.forceShutdown .thermal
  | .thermalFanOverride => c.runFanOverride

def runDue : Nat → Controller σ → Bool × Controller σ
  | 0, c => (false, c)
  | count + 1, c =>
    match c.agenda.takeExpired c.now with
    | none => (false, c)
    | some (action, agenda) => (true, (runDue count ({ c with agenda }.runAction action)).2)

/-- Runs every action that is due or falls due meanwhile. No action arms another, so there are
never more than the agenda has places. -/
def pollDeferred (c : Controller σ) : Bool × Controller σ :=
  runDue DeferredAction.all.length c

/-- A board without a fan supply always powers its fans. -/
def fanPowerGood (c : Controller σ) : Bool × Controller σ :=
  match c.fanSupply with
  | none => (true, c)
  | some rail =>
    let live := c.rig.status rail
    (live.1 = .on, { c with rig := live.2 })

def askDown (c : Controller σ) : Controller σ :=
  let pulse := c.config.cooling.buttonPulse
  c.withPlant (((c.plant.setPowerButton true).sleep pulse).setPowerButton false)

def armShutdown (c : Controller σ) (overrideDelay : Span) : Controller σ :=
  (c.schedule .thermalForceShutdown c.now c.config.cooling.forceDelay).schedule .thermalFanOverride
    c.now overrideDelay

/-- Asks the AP to shut down, and arms the forced shutdown and the fan override in case it does
not. -/
def startThermalShutdown (c : Controller σ) : Except Halt (Controller σ) :=
  (c.config.cooling.forceDelay.add c.config.cooling.overrideOffset).map c.askDown.armShutdown

def releaseFans : List FanId → FanBank → FanBank
  | [], b => b
  | fan :: rest, b => releaseFans rest (b.setMode fan .rpm)

def recover (c : Controller σ) (recovery : Recovery) : Controller σ :=
  let released := { c with fans := releaseFans c.fans.fans c.fans }
  match recovery with
  | .resumed => released
  | .restartAp => released.requestPowerOn.2

def followRecovery (c : Controller σ) : Option Recovery → Controller σ
  | none => c
  | some recovery => c.recover recovery

def coolingInputs (c : Controller σ) : CoolingInputs :=
  { controlEnabled := c.fans.allFollow
    chipsetOn := c.powerState = .s0
    chipsetHardOff := c.powerState = .g3
    recoveryAllowed := c.flags.thermalRecovery }

def tickFans (c : Controller σ) (time : Instant) : Except Halt (Controller σ) :=
  let powered := c.fanPowerGood
  let checked := powered.2.fans.healthTick powered.1 time powered.2.plant
  (checked.1.controlWithinWords powered.1 time checked.2).map fun controlled =>
    { powered.2.withPlant controlled.2 with fans := controlled.1 }

def applyDemand (c : Controller σ) : Option Nat → Except Halt (Controller σ)
  | none => .ok c
  | some percent => (c.fans.demandWithinWords percent c.plant).map fun fans => { c with fans }

/-- Enters or ends a thermal shutdown, as the tick of the cooling says. -/
def followTick (c : Controller σ) (tick : CoolingTick) : Except Halt (Controller σ) :=
  (if tick.critical.isSome then c.startThermalShutdown else .ok c).map
    (·.followRecovery tick.recovery)

def tickCooling (c : Controller σ) : Except Halt (CoolingTick × Controller σ) := do
  let (tick, cooling, p) ← c.cooling.tick c.coolingInputs c.now c.plant
  let asked ← { c.withPlant p with cooling }.applyDemand tick.demand
  return (tick, ← asked.followTick tick)

def tickSecond (c : Controller σ) : Except Halt (CoolingTick × Controller σ) := do
  let (tick, cooled) ← c.tickCooling
  return (tick, ← cooled.tickFans c.now)

end BoardWarden.Controller
