import BoardWarden.Board

set_option autoImplicit false

namespace BoardWarden

structure RailId where
  index : Nat
  deriving DecidableEq

def RailId.text (rail : RailId) : String := "supply#" ++ toString rail.index

structure Enable where
  line : Line
  activeLow : Bool
  deriving DecidableEq

namespace Enable

def level (e : Enable) (on : Bool) : Bool := on != e.activeLow

end Enable

inductive Feedback where
  | none
  | analog (channel : Channel) (minMillivolts : Nat)
  | powerGood (line : Line)
  deriving DecidableEq

/-- A rail is powered from `parent`; a rail that names itself is a root. -/
structure Rail where
  name : String
  parent : RailId
  enable : Enable
  feedback : Feedback
  deriving DecidableEq

inductive RailState where
  | off
  | turningOn
  | on
  | fault
  | turnOnFailed
  | pgTimeout
  deriving DecidableEq

def RailState.all : List RailState := [off, turningOn, on, fault, turnOnFailed, pgTimeout]

def RailState.letter : RailState → String
  | off => "O"
  | turningOn => "T"
  | on => "N"
  | fault => "F"
  | turnOnFailed => "X"
  | pgTimeout => "P"

def RailState.text : RailState → String
  | off => "off"
  | turningOn => "turning on"
  | on => "on"
  | fault => "fault"
  | turnOnFailed => "turn on failed"
  | pgTimeout => "timeout"

inductive RailStatus where
  | off
  | on
  | fault
  deriving DecidableEq

def RailStatus.text : RailStatus → String
  | off => "off"
  | on => "on"
  | fault => "fault"

/-- Raise `rail`, then let it settle before its feedback counts. -/
structure Step where
  rail : RailId
  settle : Span
  deriving DecidableEq

inductive RailError where
  | unknown (rail : RailId)
  | parentNotReady (rail : RailId)
  | controlFailed (rail : RailId)
  | powerGoodTimeout (rail : RailId)
  | regressed (rail : RailId)
  | sequenceTooLong
  deriving DecidableEq

def RailError.rail? : RailError → Option RailId
  | unknown rail => some rail
  | parentNotReady rail => some rail
  | controlFailed rail => some rail
  | powerGoodTimeout rail => some rail
  | regressed rail => some rail
  | sequenceTooLong => none

def RailError.name : RailError → String
  | unknown _ => "UnknownSupply"
  | parentNotReady _ => "ParentNotReady"
  | controlFailed _ => "ControlFailed"
  | powerGoodTimeout _ => "PowerGoodTimeout"
  | regressed _ => "Regressed"
  | sequenceTooLong => "SequenceTooLong"

def RailError.text (error : RailError) : String :=
  match error.rail? with
  | none => error.name
  | some rail => error.name ++ "(SupplyId(" ++ toString rail.index ++ "))"

namespace Step

def ofMillis (rail : Nat) (millis : Nat) : Step := ⟨⟨rail⟩, Span.ofMillis millis⟩

def sequenceLimit : Nat := 24

def sequence? (steps : List Step) : Except RailError (List Step) :=
  if steps.length ≤ sequenceLimit then .ok steps else .error .sequenceTooLong

end Step

end BoardWarden
