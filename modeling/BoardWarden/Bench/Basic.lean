import BoardWarden.Bench.Act
import BoardWarden.Bench.Wiring

set_option autoImplicit false

namespace BoardWarden

structure Dropout where
  line : Line
  start : Nat
  stop : Nat
  deriving DecidableEq

inductive Wiring where
  | fixed (millivolts : Nat)
  /-- `millivolts` while `enable` is driven high, else nothing. -/
  | following (enable : Line) (millivolts : Nat)
  deriving DecidableEq

structure Bench where
  time : Instant
  /-- The mapped lines. -/
  lines : Array Driven
  followers : List Follower
  stuckLow : List Line
  brokenWrite : List Line
  brokenRead : List Line
  dropouts : List Dropout
  wiring : List (Channel × Wiring)
  brokenAnalog : List Channel
  temperatures : List (SensorId × Except SensorFault Nat)
  pwm : Array PwmChannel
  tachs : Array TachCapture
  /-- Latest first. -/
  acts : List Act

structure BenchChange where
  advance : Nat := 0
  high : List Line := []
  low : List Line := []
  follow : List Follower := []
  release : List Line := []
  stuckLow : List Line := []
  fix : List Line := []
  brokenWrite : List Line := []
  brokenRead : List Line := []
  dropout : List Dropout := []
  analog : List (Channel × Wiring) := []
  brokenAnalog : List Channel := []
  temperatures : List (SensorId × Except SensorFault Nat) := []

namespace Bench

def fresh (lineCount : Nat) (time : Instant) (tachCount : Nat) : Bench :=
  { time
    lines := Array.replicate lineCount ⟨false, time.micros⟩
    followers := []
    stuckLow := []
    brokenWrite := []
    brokenRead := []
    dropouts := []
    wiring := []
    brokenAnalog := []
    temperatures := []
    pwm := Array.replicate 4 ⟨0, false⟩
    tachs := Array.replicate tachCount TachCapture.fresh
    acts := [] }

def log (b : Bench) (act : Act) : Bench :=
  { b with acts := act :: b.acts }

def level (b : Bench) (line : Line) : Bool :=
  match b.lines[line.index]? with
  | some driven => driven.level
  | none => false

def drive (b : Bench) (level : Bool) (line : Line) : Bench :=
  { b with
    lines := b.lines.modify line.index fun driven => driven.drive level b.time }

def follow (b : Bench) (f : Follower) : Bench :=
  { b with followers := b.followers.filter (fun g => g.output != f.output) ++ [f] }

def change (b : Bench) (c : BenchChange) : Bench :=
  let b := { b with time := b.time.after (Span.ofMicros c.advance) }
  let b := c.high.foldl (Bench.drive · true) b
  let b := c.low.foldl (Bench.drive · false) b
  let b := c.follow.foldl Bench.follow b
  { b with
    stuckLow := b.stuckLow.filter (fun line => !c.release.contains line) ++ c.stuckLow
    brokenWrite := b.brokenWrite.filter (fun line => !c.fix.contains line) ++ c.brokenWrite
    brokenRead := b.brokenRead.filter (fun line => !c.fix.contains line) ++ c.brokenRead
    dropouts := b.dropouts ++ c.dropout
    wiring := c.analog.foldl assign b.wiring
    brokenAnalog := b.brokenAnalog ++ c.brokenAnalog
    temperatures := c.temperatures.foldl assign b.temperatures }

def forcedLow (b : Bench) (line : Line) : Bool :=
  b.stuckLow.contains line ||
    b.dropouts.any fun d =>
      d.line = line && decide (d.start ≤ b.time.micros) && decide (b.time.micros < d.stop)

def followed (b : Bench) (f : Follower) : Bool :=
  match b.lines[f.enable.index]? with
  | some driven => driven.heldFor f.latency b.time
  | none => false

def read (b : Bench) (line : Line) : Except LineFault Bool :=
  if b.lines.size ≤ line.index then .error .unmapped
  else if b.brokenRead.contains line then .error .bus
  else if b.forcedLow line then .ok false
  else
    match b.followers.find? fun f => f.output = line with
    | some f => .ok (b.followed f)
    | none => .ok (b.level line)

def write (b : Bench) (line : Line) (level : Bool) : Except LineFault Unit × Bench :=
  if b.lines.size ≤ line.index then
    (.error .unmapped, b.log (.drive line level false b.time))
  else if b.brokenWrite.contains line then
    (.error .bus, b.log (.drive line level false b.time))
  else (.ok (), (b.drive level line).log (.drive line level true b.time))

def sample (b : Bench) (channel : Channel) : Except LineFault Nat :=
  if b.brokenAnalog.contains channel then .error .bus
  else
    match b.wiring.find? fun w => w.1 = channel with
    | none => .error .unmapped
    | some (_, .fixed millivolts) => .ok millivolts
    | some (_, .following enable millivolts) => .ok (if b.level enable then millivolts else 0)

def kelvin (b : Bench) (sensor : SensorId) : Except SensorFault Nat :=
  match b.temperatures.find? fun t => t.1 = sensor with
  | some (_, reading) => reading
  | none => .error .notPresent

instance : Board Bench where
  now b := b.time
  sleep span b := { b with time := b.time.after span }
  readLine line b := (b.read line, b)
  driveLine line level b := b.write line level
  readMillivolts channel b := (b.sample channel, b)
  readKelvin sensor b := (b.kelvin sensor, b)
  setDuty fan percent b :=
    { b with pwm := b.pwm.modify fan.index fun c => { c with duty := percent } }.log
      (.duty fan percent)
  setOutput fan on b :=
    { b with pwm := b.pwm.modify fan.index fun c => { c with on } }.log (.output fan on)
  notify event b := b.log (.notify event)
  setApReset asserted b := b.log (.apReset asserted b.time)
  setPowerButton pressed b := b.log (.powerButton pressed b.time)
  setIdleSleep allowed b := b.log (.idleSleep allowed)
  tach fan b := b.tachs.getD fan.index TachCapture.fresh
  clearPeriod fan b := { b with tachs := b.tachs.modify fan.index TachCapture.clearPeriod }

def onTach (b : Bench) (fan : FanId) (f : TachCapture → TachCapture) : Bench :=
  { b with tachs := b.tachs.modify fan.index f }

def spinAll (b : Bench) (perPercent stall : Nat) : Bench :=
  { b with
    tachs := b.tachs.mapIdx fun i t =>
      match b.pwm[i]? with
      | some channel => t.turn (channel.rpm perPercent stall)
      | none => t }

def referenceWiring : BenchChange :=
  { follow := [⟨⟨1⟩, ⟨2⟩, 2000⟩, ⟨⟨4⟩, ⟨5⟩, 1000⟩, ⟨⟨6⟩, ⟨7⟩, 1000⟩, ⟨⟨8⟩, ⟨9⟩, 5000⟩,
      ⟨⟨4⟩, ⟨10⟩, 20000⟩]
    analog := [(⟨0⟩, .following ⟨0⟩ 12000)]
    temperatures := [(⟨0⟩, .ok 313), (⟨1⟩, .ok 313)] }

end Bench

end BoardWarden
