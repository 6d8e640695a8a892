import BoardWarden.Clock

set_option autoImplicit false

namespace BoardWarden

inductive DeferredAction where
  | forceShutdown
  | forceReset
  | thermalForceShutdown
  | thermalFanOverride
  deriving DecidableEq

namespace DeferredAction

def all : List DeferredAction :=
  [forceShutdown, forceReset, thermalForceShutdown, thermalFanOverride]

def text : DeferredAction → String
  | forceShutdown => "ForceShutdown"
  | forceReset => "ForceReset"
  | thermalForceShutdown => "ThermalForceShutdown"
  | thermalFanOverride => "ThermalFanOverride"

end DeferredAction

structure Agenda where
  forceShutdown : Option Instant
  forceReset : Option Instant
  thermalForceShutdown : Option Instant
  thermalFanOverride : Option Instant
  deriving DecidableEq

namespace Agenda

def empty : Agenda := ⟨none, none, none, none⟩

def deadline? (a : Agenda) : DeferredAction → Option Instant
  | .forceShutdown => a.forceShutdown
  | .forceReset => a.forceReset
  | .thermalForceShutdown => a.thermalForceShutdown
  | .thermalFanOverride => a.thermalFanOverride

def set (a : Agenda) (action : DeferredAction) (deadline : Option Instant) : Agenda :=
  match action with
  | .forceShutdown => { a with forceShutdown := deadline }
  | .forceReset => { a with forceReset := deadline }
  | .thermalForceShutdown => { a with thermalForceShutdown := deadline }
  | .thermalFanOverride => { a with thermalFanOverride := deadline }

def isPending (a : Agenda) (action : DeferredAction) : Bool := (a.deadline? action).isSome

def schedule (a : Agenda) (action : DeferredAction) (now : Instant) (delay : Span) : Agenda :=
  a.set action (some (now.after delay))

def reschedule (a : Agenda) (action : DeferredAction) (now : Instant) (delay : Span) : Agenda :=
  if a.isPending action then a.schedule action now delay else a

def cancel (a : Agenda) (action : DeferredAction) : Bool × Agenda :=
  (a.isPending action, a.set action none)

def armed (a : Agenda) : List (DeferredAction × Instant) :=
  DeferredAction.all.filterMap fun action => (a.deadline? action).map (action, ·)

def nextDeadline (a : Agenda) : Option Instant :=
  ((a.armed.map fun entry => entry.2.micros).min?).map Instant.mk

def earliest : List (DeferredAction × Instant) → Option (DeferredAction × Instant)
  | [] => none
  | entry :: rest =>
    match earliest rest with
    | none => some entry
    | some other => some (if other.2.micros < entry.2.micros then other else entry)

def due (a : Agenda) (now : Instant) : List (DeferredAction × Instant) :=
  a.armed.filter fun entry => decide (entry.2.micros ≤ now.micros)

/-- Takes the action that has been due for longest. -/
def takeExpired (a : Agenda) (now : Instant) : Option (DeferredAction × Agenda) :=
  (earliest (a.due now)).map fun entry => (entry.1, a.set entry.1 none)

end Agenda

end BoardWarden
