import BoardWarden.Controller.View
import BoardWarden.Emulator.Command
import BoardWarden.Emulator.World
import BoardWarden.Text.Lines

set_option autoImplicit false

/-!
A session: a controller on a simulated carrier, run by typed commands. Simulated time passes only
inside `runFor`, which steps the controller, and ticks it once for each second of the session.
-/

namespace BoardWarden.Emulator

structure Session where
  controller : Controller World
  nextTick : Instant
  /-- Number of the first entry that was not shown. -/
  nextLogId : Nat

namespace Session

def tick : Span := Span.ofSeconds 1

def buttonTap : Span := Span.ofMillis 100

/-- Time that passes when the sequencer makes none pass. -/
def idleStep : Span := Span.ofMillis 1

def fresh : Session :=
  let started :=
    (Controller.fresh Carrier.layout Carrier.fanCount ControllerConfig.builtIn World.fresh).init
      Settings.Store.empty ⟨false, false, false, false⟩
  { controller := started, nextTick := started.now.after tick, nextLogId := 0 }

def powerState (s : Session) : PowerState := s.controller.powerState

def now (s : Session) : Instant := s.controller.now

def world (s : Session) : World := s.controller.board

def withWorld (s : Session) (w : World) : Session :=
  { s with controller := s.controller.withBoard w }

def stepControl (s : Session) : Session :=
  { s with controller := (s.controller.pollDeferred.2).stepPower }

def tickIfDue (s : Session) : Except Halt Session :=
  if s.nextTick.micros ≤ s.now.micros then
    match (s.controller.withBoard s.world.spinFans).tickSecond with
    | .error halt => .error halt
    | .ok (_, controller) => .ok { s with controller, nextTick := s.nextTick.after tick }
  else .ok s

def wake (s : Session) (stop : Instant) : Instant :=
  let first := min s.nextTick.micros stop.micros
  match s.controller.agenda.nextDeadline with
  | none => ⟨first⟩
  | some deadline => ⟨min first (max deadline.micros s.now.micros)⟩

def pass (stop : Instant) (s : Session) : Except Halt (Bool × Session) :=
  let stepped := s.stepControl
  let now := stepped.now
  if stop.micros ≤ now.micros then .ok (true, stepped)
  else if !stepped.controller.isSteady then
    .ok (false,
      if now = s.now then stepped.withWorld (stepped.world.advanceTo (now.after idleStep)) else stepped)
  else
    let wake := stepped.wake stop
    match (stepped.withWorld (stepped.world.advanceTo wake)).tickIfDue with
    | .error halt => .error halt
    | .ok ticked => .ok (wake = stop && decide (stop.micros ≤ ticked.now.micros), ticked)

def runWithin (stop : Instant) : Nat → Session → Except Halt Session
  | 0, s => .ok s
  | fuel + 1, s =>
    match pass stop s with
    | .error halt => .error halt
    | .ok (true, done) => .ok done
    | .ok (false, later) => runWithin stop fuel later

/-- Passes that are enough: each moves the clock or the next tick, or leaves a due action to the
pass that follows. -/
def passBound (s : Session) (stop : Instant) : Nat :=
  2 * ((stop.micros - s.now.micros) + (stop.micros - s.nextTick.micros)) + 4

def runFor (s : Session) (span : Span) : Except Halt Session :=
  let stop := s.now.after span
  runWithin stop (s.passBound stop) s

def onController (s : Session) (f : Controller World → Controller World) : Session :=
  { s with controller := f s.controller }

def tapPower (s : Session) (hold : Span) : Except Halt (List String × Session) := do
  let held ← (s.onController (·.powerButtonChanged true s.now)).runFor hold
  let released ← (held.onController (·.powerButtonChanged false held.now)).runFor idleStep
  return (["power button released, state=" ++ released.powerState.text], released)

def tapReset (s : Session) : Except Halt (List String × Session) := do
  let held ← (s.onController (·.resetButtonChanged true s.now)).runFor buttonTap
  let released := held.onController (·.resetButtonChanged false held.now)
  return (["reset button released, ap-reset=" ++
    (if released.world.apReset then "asserted" else "released")], released)

def expireWatchdog (s : Session) : Except Halt (List String × Session) := do
  return (["watchdog expired"], ← (s.onController (·.watchdogExpired s.now)).runFor buttonTap)

def run (s : Session) (span : Span) : Except Halt (List String × Session) := do
  let later ← s.runFor span
  return (["t=" ++ later.now.text ++ " state=" ++ later.powerState.text], later)

def byte? (text : String) : Option Nat := Text.unsigned? 256 text.toList

def celsius? (text : String) : Option (Option Int) :=
  if Text.sameLetters text "none" then some none
  else (Text.signed? 32768 text.toList).map some

def setTemperature (s : Session) (sensor celsius : String) : List String × Session :=
  match byte? sensor with
  | none => ([(Complaint.sensor sensor).text], s)
  | some number =>
    match celsius? celsius with
    | none => ([(Complaint.temperature celsius).text], s)
    | some reading =>
      let set := s.world.setCelsius ⟨number⟩ reading
      if set.1 then (["sensor " ++ toString number ++ " set"], s.withWorld set.2)
      else ([(Complaint.noSensor number).text], s)

def faultLine (s : Session) (rail : String) : Except Complaint Line :=
  let rails := s.controller.rig.rails
  match (rails.lookup rail).bind rails.row? with
  | none => .error (.rail rail)
  | some row =>
    match row.feedback with
    | .powerGood line => .ok line
    | .analog _ _ => .ok row.enable.line
    | .none => .error (.noFeedback rail)

def injectFault (s : Session) (rail : String) (faulted : Bool) :
    Except Halt (List String × Session) :=
  match s.faultLine rail with
  | .error complaint => .ok ([complaint.text], s)
  | .ok line => do
    let pulled := s.withWorld (if faulted then s.world.stickLow line else s.world.release line)
    let later ← (pulled.onController (·.supplyFeedbackChanged)).runFor idleStep
    return ([rail ++ " feedback " ++ (if faulted then "pulled low" else "released") ++
      ", state=" ++ later.powerState.text], later)

def fan? (s : Session) (text : String) : Except Complaint FanId :=
  match byte? text with
  | none => .error (.fan text)
  | some number =>
    match s.controller.fans.channel? ⟨number⟩ with
    | none => .error (.noFan ⟨number⟩)
    | some _ => .ok ⟨number⟩

def withFans (s : Session) (fans : FanBank) : Session :=
  s.onController fun c => { c with fans }

def pinFan (s : Session) (fan rpm : String) : Except Halt (List String × Session) :=
  match s.fan? fan with
  | .error complaint => .ok ([complaint.text], s)
  | .ok id =>
    match Text.unsigned? 4294967296 rpm.toList with
    | none => .ok ([(Complaint.rpm rpm).text], s)
    | some speed => do
      let fans ← ((s.controller.fans.setFollowsDemand id false).setMode id .rpm).setTarget id speed
      let target := match fans.channel? id with
        | some channel => channel.liveTarget
        | none => 0
      return ([id.text ++ " pinned at " ++ toString target ++ " rpm"], s.withFans fans)

def freeFan (s : Session) (fan : String) : List String × Session :=
  match s.fan? fan with
  | .error complaint => ([complaint.text], s)
  | .ok id =>
    ([id.text ++ " follows thermal demand"], s.withFans (s.controller.fans.setFollowsDemand id true))

def statusLines (s : Session) : Except Halt (List String × Session) :=
  s.controller.panel.map fun shown =>
    let later := { s with controller := shown.2 }
    (Text.lines (shown.1.text ++ "board t=" ++ later.now.text ++ " ap-reset=" ++
        Text.yesNo later.world.apReset ++ " power-button=" ++
        Text.yesNo later.world.powerButton ++ "\n"),
      later)

def reportLines (s : Session) : List String × Session :=
  let shown := s.controller.report
  (Text.lines shown.1, { s with controller := shown.2 })

/-- What happened since the log was last shown: milestones of the AP, then new entries. -/
def drainLog (s : Session) : List String × Session :=
  let milestones := s.world.milestones.map fun event => "chipset " ++ event.text
  let entries := s.controller.journal.entries.filter fun entry => decide (s.nextLogId ≤ entry.id)
  let next := match entries.getLast? with
    | some entry => entry.id + 1
    | none => s.nextLogId
  (milestones ++ entries.map Entry.text,
    { s.withWorld { s.world with milestones := [] } with nextLogId := next })

def timed (s : Session) (amount : String) (f : Span → Except Halt (List String × Session)) :
    Except Halt (List String × Session) :=
  match parseAmount amount with
  | .error complaint => .ok ([complaint.text], s)
  | .ok span => f span

def perform (s : Session) : Command → Except Halt (List String × Session)
  | .help => .ok ([helpList], s)
  | .helpOn topic => .ok ([helpText topic], s)
  | .power => s.tapPower buttonTap
  | .hold amount => s.timed amount s.tapPower
  | .reset => s.tapReset
  | .watchdog => s.expireWatchdog
  | .temp sensor celsius => .ok (s.setTemperature sensor celsius)
  | .fault rail => s.injectFault rail true
  | .clear rail => s.injectFault rail false
  | .fanRpm fan rpm => s.pinFan fan rpm
  | .fanAuto fan => .ok (s.freeFan fan)
  | .run amount => s.timed amount s.run
  | .status => s.statusLines
  | .supplies => .ok s.reportLines
  | .log => .ok ([], s)
  | .unknown line => .ok ([(Complaint.command line).text], s)

def handle (s : Session) (line : String) : Except Halt (List String × Session) := do
  let (output, later) ← s.perform (Command.ofLine line)
  let log := later.drainLog
  return (output ++ log.1, log.2)

def handleAll : List String → Session → Except Halt (List (List String) × Session)
  | [], s => .ok ([], s)
  | line :: rest, s => do
    let (output, later) ← s.handle line
    let (outputs, last) ← handleAll rest later
    return (output :: outputs, last)

end Session

end BoardWarden.Emulator
