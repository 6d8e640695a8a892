import BoardWarden.Board
import BoardWarden.Emulator.Amount

set_option autoImplicit false

namespace BoardWarden.Emulator

inductive Command where
  | help
  | helpOn (topic : String)
  | power
  | hold (amount : String)
  | reset
  | watchdog
  | temp (sensor celsius : String)
  | fault (rail : String)
  | clear (rail : String)
  | fanRpm (fan rpm : String)
  | fanAuto (fan : String)
  | run (amount : String)
  | status
  | supplies
  | log
  | unknown (line : String)
  deriving DecidableEq

namespace Command

def ofLine (line : String) : Command :=
  match Text.words line with
  | ["help"] => help
  | ["help", topic] => helpOn topic
  | ["power"] => power
  | ["power", "hold", amount] => hold amount
  | ["reset"] => reset
  | ["watchdog"] => watchdog
  | ["temp", sensor, celsius] => temp sensor celsius
  | ["fault", rail] => fault rail
  | ["clear", rail] => clear rail
  | ["fan", fan, "rpm", rpm] => fanRpm fan rpm
  | ["fan", fan, "auto"] => fanAuto fan
  | ["run", amount] => run amount
  | ["status"] => status
  | ["supplies"] => supplies
  | ["log"] => log
  | _ => unknown line

end Command

inductive Complaint where
  | duration (text : String)
  | sensor (text : String)
  | temperature (text : String)
  | noSensor (sensor : Nat)
  | rail (text : String)
  | noFeedback (rail : String)
  | fan (text : String)
  | noFan (fan : FanId)
  | rpm (text : String)
  | topic (text : String)
  | command (line : String)
  deriving DecidableEq

def quoted (text : String) : String := "`" ++ text ++ "`"

def Complaint.text : Complaint → String
  | duration text => "invalid duration " ++ quoted text
  | sensor text => "invalid sensor " ++ quoted text
  | temperature text => "invalid temperature " ++ quoted text
  | noSensor number => "no sensor " ++ toString number
  | rail text => "unknown rail " ++ quoted text
  | noFeedback name => name ++ " has no feedback to fault"
  | fan text => "invalid fan " ++ quoted text
  | noFan id => "no " ++ id.text
  | rpm text => "invalid rpm " ++ quoted text
  | topic text => "no help for " ++ quoted text
  | command line => "unknown command " ++ quoted line ++ "; try `help`"

def helpTopics : List (String × String) :=
  [("power", "power [hold <seconds>]        - tap or hold the power button"),
    ("reset", "reset                         - tap the reset button"),
    ("watchdog", "watchdog                      - expire the AP watchdog"),
    ("temp", "temp <sensor> <celsius|none>   - set or remove a sensor reading"),
    ("fault", "fault <rail> | clear <rail>    - pull a rail's feedback low or release it"),
    ("fan", "fan <n> rpm <rpm> | fan <n> auto - pin a fan speed or return it to thermal control"),
    ("run", "run <seconds> | run <n>ms      - advance simulated time"),
    ("status", "status                        - display power, thermal and fan state"),
    ("supplies", "supplies                      - dependency-ordered rail report"),
    ("log", "log                           - telemetry recorded since the last `log`"),
    ("help", "help [topic]                  - show help for a command")]

def helpList : String :=
  "commands:" ++ String.join (helpTopics.map fun topic => " " ++ topic.1)

def helpText (topic : String) : String :=
  match helpTopics.find? fun entry => Text.sameLetters entry.1 topic with
  | some entry => entry.2
  | none => (Complaint.topic topic).text

def parseAmount (text : String) : Except Complaint Span :=
  match span? text with
  | some span => .ok span
  | none => .error (.duration text)

end BoardWarden.Emulator
