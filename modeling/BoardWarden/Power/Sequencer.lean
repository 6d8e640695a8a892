import BoardWarden.Power.Plan
import BoardWarden.Rail.Supervision

set_option autoImplicit false

/-!
The power sequencer: ten states between mechanical off and a running AP. A request to shut down
is a latch that only the way out of G3 clears, so every failure takes the same way down, through
the states in which the rails are lowered, to G3.
-/

namespace BoardWarden

structure ResetFlags where
  /-- Another image handed over with the AP running. -/
  jumped : Bool
  apOff : Bool
  soft : Bool
  watchdog : Bool
  deriving DecidableEq

structure Sequencer where
  state : PowerState
  plan : PowerPlan
  timings : PowerTimings
  forcingShutdown : Bool
  exitRequested : Bool
  buttonHeld : Bool
  lastShutdown : Option ShutdownReason
  lastReset : Option ResetReason
  deriving DecidableEq

namespace Sequencer

def fresh (plan : PowerPlan) (timings : PowerTimings) : Sequencer :=
  { state := .g3
    plan
    timings
    forcingShutdown := false
    exitRequested := false
    buttonHeld := false
    lastShutdown := none
    lastReset := none }

def isSteady (m : Sequencer) : Bool :=
  match m.state with
  | .g3 => !m.exitRequested
  | .s0 => !m.forcingShutdown
  | _ => false

def setButtonHeld (m : Sequencer) (held : Bool) : Sequencer :=
  { m with buttonHeld := held }

def setDaughterboard (m : Sequencer) (steps : Option (List Step)) : Sequencer :=
  { m with plan := { m.plan with daughterboard := steps } }

/-- Asks for power. The request is taken only in G3 and on the way there. -/
def exitHardOff (m : Sequencer) : Bool × Sequencer :=
  match m.state with
  | .g3 | .s5g3 => (true, { m with exitRequested := true })
  | _ => (false, m)

/-- Sets the latch; only the reason that sets it is kept and entered. -/
def forceShutdown (m : Sequencer) (reason : ShutdownReason) (time : Instant) (j : Journal) :
    Sequencer × Journal :=
  if m.forcingShutdown then (m, j)
  else
    ({ m with forcingShutdown := true, lastShutdown := some reason },
      j.note (.forcedShutdown reason) time)

variable {σ : Type} [Board σ]

def forceShutdownNow (m : Sequencer) (reason : ShutdownReason) (r : Rig σ) : Sequencer × Rig σ :=
  let forced := m.forceShutdown reason r.plant.now r.plant.journal
  (forced.1, { r with plant := { r.plant with journal := forced.2 } })

/-- Pulses the AP reset line while the AP is up or coming up. -/
def reset (m : Sequencer) (reason : ResetReason) (p : Plant σ) : Bool × Sequencer × Plant σ :=
  match m.state with
  | .s0 | .s3s0 =>
    (true, { m with lastReset := some reason },
      (((p.note (.chipsetReset reason)).setApReset true).sleep m.timings.resetPulse).setApReset false)
  | _ => (false, m, p)

def allGroupsOn (rails : RailBank) : List (List Step) → Plant σ → Bool × Plant σ
  | [], p => (true, p)
  | group :: rest, p =>
    let live := rails.allOn group p
    if live.1 then allGroupsOn rails rest live.2 else (false, live.2)

/-- Every rail of the plan is live and the AP shows that it runs. -/
def compositeGood (m : Sequencer) (rails : RailBank) (p : Plant σ) : Bool × Plant σ :=
  let live := allGroupsOn rails (m.plan.primary :: m.plan.upperGroups) p
  if live.1 then
    match m.plan.apAlive with
    | none => (true, live.2)
    | some line =>
      let level := live.2.readLine line
      (match level.1 with
        | .ok high => high
        | .error _ => false, level.2)
  else (false, live.2)

/-- Polls until power is good or the deadline has come. With a poll interval of at least one
microsecond, `fuel` microseconds to the deadline are enough. -/
def awaitGood (m : Sequencer) (rails : RailBank) (deadline : Instant) :
    Nat → Plant σ → Bool × Plant σ
  | 0, p => m.compositeGood rails p
  | fuel + 1, p =>
    let good := m.compositeGood rails p
    if good.1 || decide (deadline.micros ≤ good.2.now.micros) then good
    else awaitGood m rails deadline fuel (good.2.sleep m.timings.poll)

def waitComposite (m : Sequencer) (timeout : Span) (r : Rig σ) : Bool × Rig σ :=
  let deadline := r.plant.now.after timeout
  let good := m.awaitGood r.rails deadline (deadline.micros - r.plant.now.micros) r.plant
  (good.1, { r with plant := good.2 })

/-- Where the sequencer starts after the controller itself came up. -/
def chipsetInit (m : Sequencer) (rails : RailBank) (flags : ResetFlags) (autoboot : Bool)
    (p : Plant σ) : Sequencer × Plant σ :=
  let m := { m with state := .g3 }
  if flags.jumped then
    let good := m.compositeGood rails p
    if good.1 then ({ m with state := .s0 }, good.2.setIdleSleep false) else (m, good.2)
  else if !flags.apOff && (autoboot || flags.soft || flags.watchdog) then
    ({ m with exitRequested := true }, p)
  else (m, p)

def raiseGroups (timeout : Span) : List (List Step) → Rig σ → Bool × Rig σ
  | [], r => (true, r)
  | group :: rest, r =>
    let raised := r.sequenceOnWithin group timeout
    match raised.1 with
    | .error _ => (false, raised.2)
    | .ok () => raiseGroups timeout rest raised.2

def lowerGroups : List (List Step) → Rig σ → Rig σ
  | [], r => r
  | group :: rest, r => lowerGroups rest (r.sequenceOff group).2

def lowerUpper (m : Sequencer) (r : Rig σ) : Rig σ :=
  lowerGroups m.plan.upperGroups.reverse r

def onPlant (r : Rig σ) (f : Plant σ → Plant σ) : Rig σ :=
  { r with plant := f r.plant }

def fail (m : Sequencer) (reason : ShutdownReason) (next : PowerState) (r : Rig σ) :
    PowerState × Sequencer × Rig σ :=
  (next, m.forceShutdownNow reason r)

/-- S5 to S3: raises the primary rails with the AP held in reset. -/
def raisePrimary (m : Sequencer) (r : Rig σ) : PowerState × Sequencer × Rig σ :=
  let raised := (onPlant r (·.setApReset true)).sequenceOn m.plan.primary
  match raised.1 with
  | .error _ => m.fail .sequenceFailure .s0s3 raised.2
  | .ok () => (.s3, m, onPlant raised.2 fun p => (p.notify .preInit).notify .startup)

/-- S3: raises the upper groups and releases the AP, or turns back. -/
def raiseUpper (m : Sequencer) (r : Rig σ) : PowerState × Sequencer × Rig σ :=
  if m.forcingShutdown then (.s3s5, m, r)
  else
    let live := r.rails.allOn m.plan.primary r.plant
    let r := { r with plant := live.2 }
    if live.1 then
      let raised := raiseGroups m.timings.s3Rail m.plan.upperGroups r
      if raised.1 then (.s3s0, m, onPlant raised.2 (·.setApReset false))
      else
        let failed := m.fail .sequenceFailure .s3s5 raised.2
        (failed.1, failed.2.1, m.lowerUpper failed.2.2)
    else m.fail .powerGoodLost .s3s5 r

def awaitAp (m : Sequencer) (r : Rig σ) : PowerState × Sequencer × Rig σ :=
  let good := m.waitComposite m.timings.apFirst r
  if good.1 then (.s0, m, onPlant good.2 fun p => (p.notify .resume).setIdleSleep false)
  else m.fail .powerGoodLost .s0s3 good.2

/-- S0: rides out a short loss of power good. -/
def watchAp (m : Sequencer) (r : Rig σ) : PowerState × Sequencer × Rig σ :=
  if m.forcingShutdown then (.s0s3, m, r)
  else
    let good := m.waitComposite m.timings.apDebounce r
    if good.1 then (.s0, m, good.2) else m.fail .powerGoodLost .s0s3 good.2

/-- S0 to S3: holds the AP in reset and lowers the upper groups. -/
def suspend (m : Sequencer) (r : Rig σ) : PowerState × Sequencer × Rig σ :=
  let held := onPlant r fun p => (p.notify .suspend).setApReset true
  let lowered := onPlant (m.lowerUpper held) (·.setIdleSleep true)
  if m.buttonHeld then m.fail .powerButton .s3 lowered else (.s3, m, lowered)

/-- S3 to S5: lowers the primary rails. -/
def lowerPrimary (m : Sequencer) (r : Rig σ) : PowerState × Sequencer × Rig σ :=
  (.s5, m, ((onPlant r (·.notify .shutdown)).sequenceOff m.plan.primary).2)

def next (m : Sequencer) (r : Rig σ) : PowerState × Sequencer × Rig σ :=
  match m.state with
  | .g3 => if m.exitRequested then (.g3s5, { m with exitRequested := false }, r) else (.g3, m, r)
  | .g3s5 => (.s5, { m with forcingShutdown := false }, r)
  | .s5 => (if m.forcingShutdown then .s5g3 else .s5s3, m, r)
  | .s5s3 => m.raisePrimary r
  | .s3 => m.raiseUpper r
  | .s3s0 => m.awaitAp r
  | .s0 => m.watchAp r
  | .s0s3 => m.suspend r
  | .s3s5 => m.lowerPrimary r
  | .s5g3 => (.g3, m, r)

/-- Does the work of the present state and enters the change of state, if any. -/
def handle (m : Sequencer) (r : Rig σ) : Sequencer × Rig σ :=
  let done := m.next r
  if done.1 = m.state then done.2
  else
    ({ done.2.1 with state := done.1 },
      done.2.2.record (.powerTransition done.1) (.transition m.state done.1))

end Sequencer

end BoardWarden
