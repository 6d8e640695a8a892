import BoardWarden.Controller.Run

set_option autoImplicit false

namespace BoardWarden

inductive ControlEvent where
  | powerButton (pressed : Bool)
  | resetButton (pressed : Bool)
  | supplyFeedback
  deriving DecidableEq

namespace ControlEvent

def text : ControlEvent → String
  | powerButton pressed => "PowerButton(" ++ toString pressed ++ ")"
  | resetButton pressed => "ResetButton(" ++ toString pressed ++ ")"
  | supplyFeedback => "SupplyFeedback"

end ControlEvent

structure Inbox where
  /-- Oldest first. -/
  waiting : List ControlEvent
  /-- Events dropped since start-up. -/
  dropped : Nat
  deriving DecidableEq

namespace Inbox

def empty : Inbox := ⟨[], 0⟩

def depth : Nat := 8

def post (q : Inbox) (event : ControlEvent) : Bool × Inbox :=
  if q.waiting.length < depth then (true, { q with waiting := q.waiting ++ [event] })
  else (false, { q with dropped := q.dropped + 1 })

def drain (q : Inbox) : List ControlEvent × Inbox := (q.waiting, { q with waiting := [] })

def receive (q : Inbox) : Option (ControlEvent × Inbox) :=
  match q.waiting with
  | [] => none
  | event :: rest => some (event, { q with waiting := rest })

end Inbox

namespace Controller

variable {σ : Type} [Board σ]

def accept (c : Controller σ) (event : ControlEvent) (now : Instant) : Controller σ :=
  match event with
  | .powerButton pressed => c.powerButtonChanged pressed now
  | .resetButton pressed => c.resetButtonChanged pressed now
  | .supplyFeedback => c.supplyFeedbackChanged

def acceptAll (c : Controller σ) (events : List ControlEvent) : Controller σ :=
  events.foldl (fun c event => c.accept event c.now) c

end Controller

end BoardWarden
