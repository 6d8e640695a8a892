import BoardWarden.Bench.Wiring
import BoardWarden.Carrier

set_option autoImplicit false

namespace BoardWarden.Emulator

structure World where
  time : Instant
  lines : Array Driven
  stuckLow : List Line
  /-- Degrees Celsius of each sensor that is fitted. -/
  temperatures : Array (Option Int)
  pwm : Array PwmChannel
  apReset : Bool
  powerButton : Bool
  /-- Milestones since they were last shown, oldest first. -/
  milestones : List ChipsetEvent
  tachs : Array TachCapture

namespace World

def fresh : World :=
  { time := Instant.zero
    lines := Array.replicate 32 ⟨false, 0⟩
    stuckLow := []
    temperatures := #[some 35, some 38, some 40, none]
    pwm := Array.replicate Carrier.fanCount ⟨0, false⟩
    apReset := false
    powerButton := false
    milestones := []
    tachs := Array.replicate Carrier.fanCount TachCapture.fresh }

def followers : List Follower :=
  [⟨⟨1⟩, ⟨2⟩, 2000⟩, ⟨⟨4⟩, ⟨5⟩, 1000⟩, ⟨⟨6⟩, ⟨7⟩, 1000⟩, ⟨⟨8⟩, ⟨9⟩, 5000⟩,
    ⟨⟨4⟩, Carrier.apAlive, 250000⟩]

def advanceTo (w : World) (time : Instant) : World :=
  if w.time.micros < time.micros then { w with time } else w

def stickLow (w : World) (line : Line) : World :=
  if w.stuckLow.contains line then w else { w with stuckLow := w.stuckLow ++ [line] }

def release (w : World) (line : Line) : World :=
  { w with stuckLow := w.stuckLow.filter (· != line) }

def setCelsius (w : World) (sensor : SensorId) (celsius : Option Int) : Bool × World :=
  (decide (sensor.index < w.temperatures.size),
    { w with temperatures := w.temperatures.setIfInBounds sensor.index celsius })

def level (w : World) (line : Line) : Bool :=
  match w.lines[line.index]? with
  | some driven => driven.level
  | none => false

def read (w : World) (line : Line) : Except LineFault Bool :=
  if w.stuckLow.contains line then .ok false
  else
    match followers.find? fun f => f.output = line with
    | some f =>
      match w.lines[f.enable.index]? with
      | some driven => .ok (driven.heldFor f.latency w.time)
      | none => .ok false
    | none =>
      match w.lines[line.index]? with
      | some driven => .ok driven.level
      | none => .error .unmapped

def write (w : World) (line : Line) (level : Bool) : Except LineFault Unit × World :=
  if line.index < w.lines.size then
    (.ok (), { w with lines := w.lines.modify line.index fun driven => driven.drive level w.time })
  else (.error .unmapped, w)

def millivolts (w : World) (channel : Channel) : Except LineFault Nat :=
  if channel = Carrier.vinSense then
    .ok (if w.level Carrier.vinEnable && !w.stuckLow.contains Carrier.vinEnable then 12000 else 0)
  else .error .unmapped

/-- A sensor cannot tell temperatures below absolute zero. -/
def kelvin (w : World) (sensor : SensorId) : Except SensorFault Nat :=
  match (w.temperatures[sensor.index]?).join with
  | none => .error .notPresent
  | some celsius => if celsius + 273 < 0 then .error .bus else .ok (celsius + 273).toNat

instance : Board World where
  now w := w.time
  sleep span w := { w with time := w.time.after span }
  readLine line w := (w.read line, w)
  driveLine line level w := w.write line level
  readMillivolts channel w := (w.millivolts channel, w)
  readKelvin sensor w := (w.kelvin sensor, w)
  setDuty fan percent w :=
    { w with pwm := w.pwm.modify fan.index fun c => { c with duty := percent } }
  setOutput fan on w := { w with pwm := w.pwm.modify fan.index fun c => { c with on } }
  notify event w := { w with milestones := w.milestones ++ [event] }
  setApReset asserted w := { w with apReset := asserted }
  setPowerButton pressed w := { w with powerButton := pressed }
  setIdleSleep _ w := w
  tach fan w := w.tachs.getD fan.index TachCapture.fresh
  clearPeriod fan w := { w with tachs := w.tachs.modify fan.index TachCapture.clearPeriod }

def fanRpm (w : World) (fan : Nat) : Nat :=
  match w.pwm[fan]? with
  | some channel => if w.level Carrier.fanEnable then channel.rpm 160 3000 else 0
  | none => 0

def spinFans (w : World) : World :=
  { w with tachs := w.tachs.mapIdx fun fan t => t.turn (w.fanRpm fan) }

end World

end BoardWarden.Emulator
