import BoardWarden.Carrier
import BoardWarden.Chip.Console
import BoardWarden.Chip.Sampler
import BoardWarden.Chip.Thermometer
import BoardWarden.Chip.Watch

set_option autoImplicit false

/-!
The chip as a board. The control task owns it; while that task sleeps, the watches go on, fed by
stimuli at the pins, and fill the inbox.
-/

namespace BoardWarden

structure ConsoleLine where
  time : Instant
  body : String
  deriving DecidableEq

def ConsoleLine.text (line : ConsoleLine) : String := toString line.time.micros ++ " " ++ line.body

structure Stimulus where
  time : Instant
  change : PinsChange

namespace Stimulus

def interrupt (pin : InterruptPin) (level : Bool) (time : Nat) : Stimulus :=
  ⟨⟨time⟩, { interrupts := [(pin, level)] }⟩

/-- Pulses from `start` to just before `stop`: one in each period, low for half of it. -/
def train (pin : InterruptPin) (start stop period : Nat) : List Stimulus :=
  (List.range' start ((stop - start + period - 1) / period) period).flatMap fun time =>
    [interrupt pin false time, interrupt pin true (time + period / 2)]

def schedule (stimuli : List Stimulus) : List Stimulus :=
  stimuli.mergeSort fun a b => decide (a.time.micros ≤ b.time.micros)

end Stimulus

structure Chip where
  now : Instant
  /-- Nothing is seen of the chip after this time. -/
  horizon : Instant
  /-- Latest first. -/
  console : List ConsoleLine
  pins : Pins
  sampler : Sampler
  power : ButtonWatch
  reset : ButtonWatch
  tach0 : TachWatch
  tach1 : TachWatch
  inbox : Inbox
  /-- What is still to happen at the pins, in the order of time. -/
  stimuli : List Stimulus
  /-- Why the program has stopped on a reading. Whatever it does from there on is void. -/
  halted : Option Halt

namespace Chip

def fresh (wired : Bool) (change : PinsChange) (rails : List SampledRail) (stimuli : List Stimulus)
    (horizon : Instant) : Chip :=
  let pins := if wired then (Pins.fresh.change Pins.carrierWiring Instant.zero).1 else Pins.fresh
  let pins := (pins.change change Instant.zero).1
  let sampler := Sampler.start rails pins
  { now := Instant.zero
    horizon
    console := []
    pins := sampler.2
    sampler := sampler.1
    power := ButtonWatch.fresh (pins.interruptLow .power)
    reset := ButtonWatch.fresh (pins.interruptLow .reset)
    tach0 := TachWatch.fresh
    tach1 := TachWatch.fresh
    inbox := Inbox.empty
    stimuli
    halted := none }

def isOver (c : Chip) : Bool := decide (c.horizon.micros < c.now.micros)

def say (c : Chip) (body : String) : Chip :=
  if c.isOver then c else { c with console := ⟨c.now, body⟩ :: c.console }

def sayAll (c : Chip) (bodies : List String) : Chip := bodies.foldl say c

def warn (c : Chip) (body : String) : Chip := c.say ("WARN " ++ body)

def changePins (c : Chip) (change : PinsChange) : List Edge × Chip :=
  let changed := c.pins.change change c.now
  (changed.2, { c with pins := changed.1 })

/-! ## The watches -/

def post (c : Chip) (event : ControlEvent) : Chip :=
  let posted := c.inbox.post event
  let c := { c with inbox := posted.2 }
  if posted.1 then c else c.warn ("event queue full, dropped " ++ event.text)

def postSome (c : Chip) : Option ControlEvent → Chip
  | none => c
  | some event => c.post event

def lookAtPower (c : Chip) (edges : List Edge) : Chip :=
  let looked := c.power.look (edges.any (·.pin = .power)) (c.pins.interruptLow .power) c.now
  { c with power := looked.2 }.postSome (looked.1.map .powerButton)

def lookAtReset (c : Chip) (edges : List Edge) : Chip :=
  let looked := c.reset.look (edges.any (·.pin = .reset)) (c.pins.interruptLow .reset) c.now
  { c with reset := looked.2 }.postSome (looked.1.map .resetButton)

def lookAtFault (c : Chip) (edges : List Edge) : Chip :=
  if edges.any (·.pin = .fault) then c.post .supplyFeedback else c

def lookAtTachs (c : Chip) (edges : List Edge) : Chip :=
  { c with
    tach0 := if edges.contains ⟨.tach0, false⟩ then c.tach0.fall c.now.micros else c.tach0
    tach1 := if edges.contains ⟨.tach1, false⟩ then c.tach1.fall c.now.micros else c.tach1 }

def look (c : Chip) (edges : List Edge) : Chip :=
  (((c.lookAtPower edges).lookAtReset edges).lookAtFault edges).lookAtTachs edges

/-! ## Time -/

def stimulate : List Stimulus → Chip → List Edge × Chip
  | [], c => ([], c)
  | stimulus :: rest, c =>
    let first := c.changePins stimulus.change
    let others := stimulate rest first.2
    (first.1 ++ others.1, others.2)

/-- The clock comes to `time`: the stimuli of that time are applied, then the watches look. -/
def moment (c : Chip) (time : Instant) : Chip :=
  let due := c.stimuli.takeWhile fun s => decide (s.time.micros ≤ time.micros)
  let stimulated :=
    stimulate due { c with now := time, stimuli := c.stimuli.drop due.length }
  stimulated.2.look stimulated.1

def nextMoment (c : Chip) : Option Instant :=
  let stimulus := c.stimuli.head?.map (·.time)
  (([stimulus, c.power.settles, c.reset.settles].filterMap id).map Instant.micros).min?.map
    Instant.mk

/-- Moments that can still come: a stimulus is a moment, and with it up to two buttons begin to
settle. -/
def momentBound (c : Chip) : Nat := 3 * c.stimuli.length + 2

def passWithin (stop : Instant) : Nat → Chip → Chip
  | 0, c => c
  | count + 1, c =>
    match c.nextMoment with
    | none => c
    | some time =>
      if time.micros ≤ stop.micros then passWithin stop count (c.moment time) else c

/-- Lets the clock run to `stop`; nothing happens beyond the horizon. -/
def runTo (c : Chip) (stop : Instant) : Chip :=
  let seen : Instant := ⟨min stop.micros c.horizon.micros⟩
  { passWithin seen c.momentBound c with now := stop }

/-! ## The board -/

def outputLines : List Line := [0, 1, 3, 4, 6, 8, 16, 17, 18, 19, 20, 21].map Line.mk

def inputLines : List Line := [2, 5, 7, 9, 10].map Line.mk

def bit (level : Bool) : String := if level then "1" else "0"

def writePin (c : Chip) (name : String) (level : Bool) : Chip :=
  { c with pins := c.pins.write name level c.now }.say (name ++ "=" ++ bit level)

def read (c : Chip) (line : Line) : Except LineFault Bool :=
  if outputLines.contains line then .ok (c.pins.output line.pin).level
  else if inputLines.contains line then .ok (c.pins.read line.pin c.now)
  else .error .unmapped

def write (c : Chip) (line : Line) (level : Bool) : Except LineFault Unit × Chip :=
  if outputLines.contains line then (.ok (), c.writePin line.pin level)
  else (.error .unmapped, c)

def halt (c : Chip) (reason : Halt) : Chip :=
  if c.isOver then c else { c with halted := some reason }

def sample (c : Chip) (channel : Channel) : Except LineFault Nat × Chip :=
  match c.sampler.read channel c.pins with
  | .error reason => (.error .bus, c.halt reason)
  | .ok (reading, pins) => (reading, { c with pins })

def sayFan (c : Chip) (fan : FanId) (body : String) : Chip :=
  if fan.index < Carrier.fanCount then c.say ("pwm" ++ toString (fan.index + 1) ++ " " ++ body)
  else c

def tach (c : Chip) (fan : FanId) : TachCapture :=
  match fan.index with
  | 0 => c.tach0.capture
  | 1 => c.tach1.capture
  | _ => TachCapture.fresh

def clearPeriod (c : Chip) (fan : FanId) : Chip :=
  match fan.index with
  | 0 => { c with tach0 := c.tach0.clearPeriod }
  | 1 => { c with tach1 := c.tach1.clearPeriod }
  | _ => c

instance : Board Chip where
  now c := c.now
  sleep span c := c.runTo (c.now.after span)
  readLine line c := (c.read line, c)
  driveLine line level c := c.write line level
  readMillivolts channel c := c.sample channel
  readKelvin sensor c := (Thermometer.read sensor c.pins, c)
  setDuty fan percent c := c.sayFan fan ("duty=" ++ toString (min percent 100))
  setOutput fan on c := c.sayFan fan (if on then "on" else "off")
  notify event c := c.say (Console.milestoneLine event)
  setApReset asserted c := c.writePin "ap_reset_n" !asserted
  setPowerButton pressed c := c.writePin "power_button_n" !pressed
  setIdleSleep allowed c := c.say ("DEBUG idle sleep allowed=" ++ toString allowed)
  tach fan c := c.tach fan
  clearPeriod fan c := c.clearPeriod fan

end Chip

end BoardWarden
