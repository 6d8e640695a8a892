import BoardWarden.Rail.Basic

set_option autoImplicit false

namespace BoardWarden.Settings

inductive BoardUnit where
  | motherboard
  | daughterboard (slot : Nat)
  deriving DecidableEq

inductive Tag where
  | boardInfo
  | powerRows
  | fanLimits (fan : Nat)
  | mcuFlags
  | zoneLimits (zone : Nat)
  deriving DecidableEq

def Tag.text : Tag → String
  | boardInfo => "BoardInfo"
  | powerRows => "DbPowerSequence"
  | fanLimits fan => "FanLimits(" ++ toString fan ++ ")"
  | mcuFlags => "McuFlags"
  | zoneLimits zone => "ZoneLimits(" ++ toString zone ++ ")"

inductive Defect where
  | wrongRecord (tag : Tag)
  | tooManySteps (count : Nat)
  | invalidSupplyMask (step mask : Nat)
  | sequenceOverflow
  | fanLimits
  | zoneLimits (zone : Nat)
  | unknownZone (zone : Nat)
  deriving DecidableEq

def Defect.text : Defect → String
  | wrongRecord tag => "WrongRecord(" ++ tag.text ++ ")"
  | tooManySteps count => "TooManySteps(" ++ toString count ++ ")"
  | invalidSupplyMask step mask =>
    "InvalidSupplyMask \x7b step: " ++ toString step ++ ", mask: " ++ toString mask ++ " \x7d"
  | sequenceOverflow => "SequenceOverflow"
  | fanLimits => "InvalidFanLimits"
  | zoneLimits zone => "InvalidZoneLimits(" ++ toString zone ++ ")"
  | unknownZone zone => "UnknownZone(" ++ toString zone ++ ")"

structure BoardInfo where
  productId : Nat
  revision : Nat
  compatRevision : Nat
  deriving DecidableEq

namespace BoardInfo

/-- The test fixture that stands in for a daughterboard has no sensors. -/
def testFixture : Nat := 0x4006

def hasSensors (info : BoardInfo) : Bool := info.productId != testFixture

end BoardInfo

structure FanLimits where
  min : Nat
  start : Nat
  max : Nat
  deriving DecidableEq

namespace FanLimits

def builtIn : FanLimits := ⟨3800, 3800, 13500⟩

def ceiling : Nat := 65535

def valid (l : FanLimits) : Bool :=
  decide (l.min < l.max) && decide (l.start ≤ l.max) && decide (l.max ≤ ceiling)

def validate (l : FanLimits) : Except Defect FanLimits :=
  if l.valid then .ok l else .error .fanLimits

end FanLimits

structure McuFlags where
  autoboot : Bool
  thermalRecovery : Bool
  deriving DecidableEq

def McuFlags.builtIn : McuFlags := ⟨false, true⟩

structure Thresholds where
  target : Int
  hysteresis : Int
  warning : Int
  critical : Int
  deriving DecidableEq

def Thresholds.ordered (t : Thresholds) : Bool :=
  decide (t.hysteresis ≤ t.warning) && decide (t.warning < t.critical)

structure ZoneLimits where
  zone : Nat
  thresholds : Thresholds
  weight : UInt8
  kp : Float32
  ki : Float32

namespace ZoneLimits

def valid (l : ZoneLimits) : Bool :=
  l.thresholds.ordered && l.kp.isFinite && l.ki.isFinite && decide (0.0 ≤ l.kp) && decide (0.0 ≤ l.ki)

def validate (l : ZoneLimits) : Except Defect ZoneLimits :=
  if l.valid then .ok l else .error (.zoneLimits l.zone)

end ZoneLimits

/-- The rails of one step as a bit mask, and the time that they settle. -/
structure PowerRow where
  delayMillis : Nat
  mask : Nat
  deriving DecidableEq

/-- The raise order of a daughterboard: the first `count` of eight rows. -/
structure PowerRows where
  count : Nat
  rows : Vector PowerRow 8

inductive Record where
  | boardInfo (info : BoardInfo)
  | powerRows (rows : PowerRows)
  | fanLimits (limits : FanLimits)
  | mcuFlags (flags : McuFlags)
  | zoneLimits (limits : ZoneLimits)

abbrev Store := BoardUnit → Tag → Option Record

def Store.empty : Store := fun _ _ => none

end BoardWarden.Settings
