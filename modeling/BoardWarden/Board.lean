import BoardWarden.Clock
import BoardWarden.Fan.Tach

set_option autoImplicit false

/-!
What a board offers to the controller: digital lines, rail voltages, sensors, fans, the host
and a clock. The controller is written against `Board` alone, so each of its laws holds of
every board, also of one that answers at will.
-/

namespace BoardWarden

structure Line where
  index : Nat
  deriving DecidableEq

structure Channel where
  index : Nat
  deriving DecidableEq

structure SensorId where
  index : Nat
  deriving DecidableEq

structure FanId where
  index : Nat
  deriving DecidableEq

def FanId.text (fan : FanId) : String := "fan" ++ toString fan.index

inductive LineFault where
  | unmapped
  | bus
  deriving DecidableEq

inductive SensorFault where
  | notPresent
  | notPowered
  | bus
  deriving DecidableEq

inductive ChipsetEvent where
  | preInit
  | startup
  | resume
  | suspend
  | shutdown
  deriving DecidableEq

namespace LineFault

def text : LineFault → String
  | unmapped => "Unmapped"
  | bus => "Bus"

end LineFault

namespace SensorFault

def text : SensorFault → String
  | notPresent => "NotPresent"
  | notPowered => "NotPowered"
  | bus => "Bus"

end SensorFault

namespace ChipsetEvent

def all : List ChipsetEvent := [preInit, startup, resume, suspend, shutdown]

def text : ChipsetEvent → String
  | preInit => "PreInit"
  | startup => "Startup"
  | resume => "Resume"
  | suspend => "Suspend"
  | shutdown => "Shutdown"

end ChipsetEvent

/-- A board with states in `σ`. Reading may change the state; only looking at the clock or at a
tachometer does not. -/
class Board (σ : Type) where
  now : σ → Instant
  sleep : Span → σ → σ
  readLine : Line → σ → Except LineFault Bool × σ
  driveLine : Line → Bool → σ → Except LineFault Unit × σ
  readMillivolts : Channel → σ → Except LineFault Nat × σ
  readKelvin : SensorId → σ → Except SensorFault Nat × σ
  setDuty : FanId → Nat → σ → σ
  setOutput : FanId → Bool → σ → σ
  notify : ChipsetEvent → σ → σ
  setApReset : Bool → σ → σ
  setPowerButton : Bool → σ → σ
  setIdleSleep : Bool → σ → σ
  tach : FanId → σ → TachCapture
  clearPeriod : FanId → σ → σ

end BoardWarden
