import BoardWarden.Halt
import BoardWarden.Settings.Record

set_option autoImplicit false

/-!
One fan: the map between percent and speed within its limits, the measured speed, and the
once-a-second step that brings the duty towards the target. All of it is computed in numbers; what may
leave a word of 32 bits has a test beside it, which its callers make first.
-/

namespace BoardWarden

open Settings (FanLimits)

inductive FanStatus where
  | stopped
  | changing
  | locked
  | frustrated
  deriving DecidableEq

def FanStatus.all : List FanStatus := [stopped, changing, locked, frustrated]

def FanStatus.text : FanStatus → String
  | stopped => "stopped"
  | changing => "changing"
  | locked => "locked"
  | frustrated => "frustrated"

inductive FanMode where
  | manual
  | rpm
  deriving DecidableEq

def FanMode.text : FanMode → String
  | manual => "manual"
  | rpm => "rpm"

structure FanConfig where
  /-- Speed errors up to here need no correction. -/
  band : Nat
  tachClock : Nat
  tachPrescaler : Nat
  /-- Edges that make one capture. -/
  captureDivider : Nat
  pulsesPerRev : Nat
  deriving DecidableEq

def FanConfig.builtIn : FanConfig := ⟨150, 96000000, 119, 8, 2⟩

structure FanChannel where
  limits : FanLimits
  enabled : Bool
  mode : FanMode
  /-- Whether the channel follows the cooling demand. -/
  followsDemand : Bool
  duty : Nat
  target : Nat
  status : FanStatus
  /-- The speed error of the latest control step. -/
  lastError : Int
  lastEdges : Nat
  deriving DecidableEq

namespace FanConfig

def countsPerSecond (c : FanConfig) : Nat := c.tachClock / (c.tachPrescaler + 1)

def rpmOfPeriod (c : FanConfig) (period : Nat) : Nat :=
  c.countsPerSecond / period * (60 / max c.pulsesPerRev 1) * c.captureDivider

def speedFits (c : FanConfig) (period : Nat) : Bool :=
  let perMinute := c.countsPerSecond / period * (60 / max c.pulsesPerRev 1)
  decide (perMinute ≤ maxUnsigned) && decide (perMinute * c.captureDivider ≤ maxUnsigned)

end FanConfig

namespace FanChannel

def fresh (limits : FanLimits) : FanChannel :=
  { limits
    enabled := false
    mode := .rpm
    followsDemand := true
    duty := 0
    target := 0
    status := .stopped
    lastError := 0
    lastEdges := 0 }

def measured (c : FanChannel) (config : FanConfig) (period : Nat) : Nat :=
  if !c.enabled || period == 0 then 0 else config.rpmOfPeriod period

def measureFits (c : FanChannel) (config : FanConfig) (period : Nat) : Bool :=
  !c.enabled || period == 0 || config.speedFits period

/-- Speed for a percentage: 1 is the slowest, 100 the fastest, 0 stands still. -/
def rpmOfPercent (l : FanLimits) (percent : Nat) : Nat :=
  if percent = 0 then 0
  else
    let percent := min percent 100
    min (((percent - 1) * l.max + (100 - percent) * l.min) / 99) 4294967295

/-- Nearest percentage to a speed, which is first brought within the limits. -/
def percentOfRpm (l : FanLimits) (rpm : Nat) : Nat :=
  if rpm = 0 then 0
  else
    let span := max (l.max - l.min) 1
    let rpm := min (max rpm l.min) (max l.max l.min)
    min (((rpm - l.min) * 99 + span / 2) / span + 1) 100

/-- The target is zero or within the limits, which must be in order. -/
def setTarget (c : FanChannel) (rpm : Nat) : Except Halt FanChannel :=
  if rpm = 0 then .ok { c with target := 0 }
  else if c.limits.min ≤ c.limits.max then
    .ok { c with target := min (max rpm c.limits.min) c.limits.max }
  else .error .speedBounds

/-- Below nine tenths of the slowest speed a fan needs a kick to start. -/
def tooSlow (l : FanLimits) (actual : Nat) : Bool :=
  decide (actual * 10 < l.min * 9)

/-- The speed that a demand asks of a fan that turns at `actual`. -/
def rpmForDemand (l : FanLimits) (actual percent : Nat) : Nat :=
  let rpm := rpmOfPercent l percent
  if rpm != 0 && tooSlow l actual && decide (rpm < l.start) then l.start else rpm

def follow (c : FanChannel) (actual percent : Nat) : Except Halt FanChannel :=
  if c.followsDemand then c.setTarget (rpmForDemand c.limits actual percent) else .ok c

def liveTarget (c : FanChannel) : Nat := if c.enabled then c.target else 0

def idle (c : FanChannel) (powered : Bool) : Bool :=
  !c.enabled || c.duty == 0 || !powered || (c.mode = .rpm && c.target == 0)

/-- A locked fan averages its speed error over the last hundred steps. -/
def damped (last error : Int) : Int := (99 * last + error).tdiv 100

/-- How far a speed lies below the target, where both count as signed words. -/
def gap (c : FanChannel) (actual : Nat) : Int :=
  (min c.liveTarget maxSigned : Int) - (min actual maxSigned : Int)

def speedError (c : FanChannel) (actual : Nat) : Int :=
  if c.status = .locked then damped c.lastError (c.gap actual) else c.gap actual

def errorFits (c : FanChannel) (actual : Nat) : Bool :=
  c.status != .locked ||
    decide (FitsSigned (99 * c.lastError) ∧ FitsSigned (99 * c.lastError + c.gap actual))

def dutyStep (size : Nat) : Nat :=
  if 1000 < size then 10 else if 500 < size then 5 else 1

inductive Correction where
  | hold
  | move (duty : Nat)
  | saturated
  deriving DecidableEq

def correction (band : Nat) (error : Int) (duty : Nat) : Correction :=
  if (band : Int) < error then
    if 100 ≤ duty then .saturated else .move (min (duty + dutyStep error.natAbs) 100)
  else if error < -(band : Int) then
    if duty = 0 then .saturated else .move (duty - dutyStep error.natAbs)
  else .hold

/-- Nothing is controlled while the channel is off at rest or set by hand. -/
def uncontrolled (c : FanChannel) : Bool :=
  (!c.enabled && c.duty == 0) || c.mode = .manual

end FanChannel

end BoardWarden
