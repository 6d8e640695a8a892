import BoardWarden.Chip.Basic
import BoardWarden.Chip.ResetCause
import BoardWarden.Controller.View

set_option autoImplicit false

namespace BoardWarden

structure ControlTask where
  controller : Controller Chip
  /-- When the next second has passed. -/
  nextSecond : Instant
  seconds : Nat

inductive Wake where
  | event (event : ControlEvent)
  | second
  | deadline
  /-- The time that is looked at has passed. -/
  | over
  deriving DecidableEq

namespace ControlTask

def second : Span := Span.ofSeconds 1

def statusPeriod : Nat := 30

def config : ControllerConfig :=
  let fan := { FanConfig.builtIn with tachClock := 1000000, tachPrescaler := 0, captureDivider := 1 }
  { ControllerConfig.builtIn with fan }

def bootLine (state : PowerState) (flags : ResetFlags) : String :=
  "INFO boot power state " ++ state.text ++ " (soft=" ++ toString flags.soft ++ " watchdog="
    ++ toString flags.watchdog ++ ")"

def chip (t : ControlTask) : Chip := t.controller.board

def onChip (t : ControlTask) (f : Chip → Chip) : ControlTask :=
  { t with controller := t.controller.withBoard (f t.chip) }

def start (flags : ResetFlags) (chip : Chip) : ControlTask :=
  let controller :=
    (Controller.fresh Carrier.layout Carrier.fanCount config chip).init Settings.Store.empty flags
  let started : ControlTask :=
    { controller, nextSecond := controller.now.after second, seconds := 0 }
  started.onChip (·.say (bootLine controller.powerState flags))

def step (t : ControlTask) : ControlTask :=
  let drained := t.chip.inbox.drain
  let emptied := t.onChip ({ · with inbox := drained.2 })
  { emptied with
    controller := ((emptied.controller.acceptAll drained.1).pollDeferred.2).stepPower }

/-- Waits through at most `count` moments. An event comes before the second, and the second before
a deadline. -/
def await (second : Instant) (deadline : Option Instant) : Nat → Chip → Wake × Chip
  | 0, c => (.over, c)
  | count + 1, c =>
    match c.inbox.receive with
    | some (event, inbox) => (.event event, { c with inbox })
    | none =>
      if second.micros ≤ c.now.micros then (.second, c)
      else if deadline.any fun d => decide (d.micros ≤ c.now.micros) then (.deadline, c)
      else
        let times := [deadline, c.nextMoment].filterMap id
        let time : Instant := ⟨(times.map Instant.micros).foldl min second.micros⟩
        if c.horizon.micros < time.micros then (.over, { c with now := time })
        else await second deadline count (c.moment time)

def showStatus (t : ControlTask) : Except Halt ControlTask :=
  t.controller.panel.map fun panel =>
    let shown : ControlTask :=
      { t with controller := panel.2 }.onChip (·.sayAll (Console.statusLines panel.1))
    let dropped := shown.chip.inbox.dropped
    if dropped = 0 then shown
    else shown.onChip (·.warn (toString dropped ++ " input events dropped since boot"))

def tick (t : ControlTask) : Except Halt ControlTask :=
  match t.controller.tickSecond with
  | .error halt => .error halt
  | .ok (_, controller) =>
    let ticked : ControlTask :=
      { controller, nextSecond := t.nextSecond.after second, seconds := t.seconds + 1 }
    if ticked.seconds % statusPeriod = 0 then ticked.showStatus else .ok ticked

def follow (t : ControlTask) : Wake → Except Halt ControlTask
  | .event event => .ok { t with controller := t.controller.accept event t.controller.now }
  | .second => t.tick
  | .deadline => .ok t
  | .over => .ok t

def turn (t : ControlTask) : Except Halt ControlTask :=
  let stepped := t.step
  if stepped.controller.isSteady then
    let woken := await stepped.nextSecond stepped.controller.agenda.nextDeadline
      (stepped.chip.momentBound + 2) stepped.chip
    (stepped.onChip fun _ => woken.2).follow woken.1
  else .ok stepped

def runWithin : Nat → ControlTask → Except Halt ControlTask
  | 0, t => .ok t
  | count + 1, t =>
    match t.chip.halted with
    | some halt => .error halt
    | none =>
      if t.chip.isOver then .ok t
      else
        match t.turn with
        | .error halt => .error halt
        | .ok next => runWithin count next

/-- Turns up to the horizon. Every stimulus brings at most three events, every event and every
second start at most a way through all states and back, and no turn on that way is idle. -/
def turnBound (c : Chip) : Nat :=
  32 * (4 * c.stimuli.length + c.horizon.micros / 1000000 + 8)

def transcript (flags : ResetFlags) (chip : Chip) : Except Halt (List ConsoleLine) :=
  (runWithin (turnBound chip) (start flags chip)).map fun t => t.chip.console.reverse

end ControlTask

end BoardWarden
