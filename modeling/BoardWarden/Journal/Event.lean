import BoardWarden.Power.State
import BoardWarden.Settings.Record

set_option autoImplicit false

namespace BoardWarden

inductive Event where
  | supplyOn (rail : RailId)
  | supplyOff (rail : RailId)
  | supplyFailed (rail : RailId)
  | supplyFault (rail : RailId)
  | supplyParentOff (rail : RailId)
  | sequenceFailed (rail : RailId)
  | powerTransition (state : PowerState)
  | forcedShutdown (reason : ShutdownReason)
  | chipsetReset (reason : ResetReason)
  | sensorReadFailed (sensor : SensorId)
  | thermalWarning (zone : Nat)
  | thermalCritical (zone : Nat)
  | thermalRecovered
  | coolingWeightZero
  | fanStalled (fan : FanId)
  | fanFrustrated (fan : FanId)
  | configRejected (tag : Settings.Tag)
  | configDefaulted (tag : Settings.Tag)
  deriving DecidableEq

inductive Severity where
  | info
  | warn
  | error
  deriving DecidableEq

def Severity.text : Severity → String
  | info => "Info"
  | warn => "Warn"
  | error => "Error"

namespace Event

def severity : Event → Severity
  | supplyOn _ | supplyOff _ | powerTransition _ | thermalRecovered | configDefaulted _ => .info
  | supplyParentOff _ | sensorReadFailed _ | thermalWarning _ | coolingWeightZero
  | fanFrustrated _ | configRejected _ | chipsetReset _ => .warn
  | supplyFailed _ | supplyFault _ | sequenceFailed _ | forcedShutdown _ | thermalCritical _
  | fanStalled _ => .error

def text : Event → String
  | supplyOn rail => "supply-on " ++ rail.text
  | supplyOff rail => "supply-off " ++ rail.text
  | supplyFailed rail => "supply-failed " ++ rail.text
  | supplyFault rail => "supply-fault " ++ rail.text
  | supplyParentOff rail => "supply-parent-off " ++ rail.text
  | sequenceFailed rail => "sequence-failed at " ++ rail.text
  | powerTransition state => "power " ++ state.text
  | forcedShutdown reason => "forced-shutdown " ++ reason.text
  | chipsetReset reason => "chipset-reset " ++ reason.text
  | sensorReadFailed sensor => "sensor-read-failed sensor" ++ toString sensor.index
  | thermalWarning zone => "thermal-warning zone" ++ toString zone
  | thermalCritical zone => "thermal-critical zone" ++ toString zone
  | thermalRecovered => "thermal-recovered"
  | coolingWeightZero => "cooling-weight-zero"
  | fanStalled fan => "fan-stalled " ++ fan.text
  | fanFrustrated fan => "fan-frustrated " ++ fan.text
  | configRejected tag => "config-rejected " ++ tag.text
  | configDefaulted tag => "config-defaulted " ++ tag.text

end Event

inductive Reading where
  | none
  | rail (state : RailState) (millivolts : Option Nat)
  | transition (origin goal : PowerState)
  | temperature (celsius : Int)
  | fan (duty rpm : Nat)
  deriving DecidableEq

def Reading.text : Reading → String
  | none => "none"
  | rail state millivolts =>
    "supply " ++ state.text ++ " " ++ (millivolts.map toString).getD "-"
  | transition origin goal => "transition " ++ origin.text ++ " " ++ goal.text
  | temperature celsius => "temp " ++ toString celsius
  | fan duty rpm => "fan " ++ toString duty ++ " " ++ toString rpm

end BoardWarden
