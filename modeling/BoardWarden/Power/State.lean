set_option autoImplicit false

namespace BoardWarden

/-- Four resting states, from mechanical off to running, and the six ways between neighbours. -/
inductive PowerState where
  | g3
  | s5
  | s3
  | s0
  | g3s5
  | s5s3
  | s3s0
  | s0s3
  | s3s5
  | s5g3
  deriving DecidableEq

namespace PowerState

def all : List PowerState := [g3, s5, s3, s0, g3s5, s5s3, s3s0, s0s3, s3s5, s5g3]

def text : PowerState → String
  | g3 => "G3"
  | s5 => "S5"
  | s3 => "S3"
  | s0 => "S0"
  | g3s5 => "G3->S5"
  | s5s3 => "S5->S3"
  | s3s0 => "S3->S0"
  | s0s3 => "S0->S3"
  | s3s5 => "S3->S5"
  | s5g3 => "S5->G3"

def isAnyOff : PowerState → Bool
  | g3 | s5 | g3s5 | s5g3 => true
  | _ => false

def isTransition : PowerState → Bool
  | g3 | s5 | s3 | s0 => false
  | _ => true

end PowerState

inductive ShutdownReason where
  | powerButton
  | supplyFault
  | sequenceFailure
  | powerGoodLost
  | thermal
  | host
  deriving DecidableEq

def ShutdownReason.all : List ShutdownReason :=
  [powerButton, supplyFault, sequenceFailure, powerGoodLost, thermal, host]

def ShutdownReason.text : ShutdownReason → String
  | powerButton => "PowerButton"
  | supplyFault => "SupplyFault"
  | sequenceFailure => "SequenceFailure"
  | powerGoodLost => "PowerGoodLost"
  | thermal => "Thermal"
  | host => "Host"

inductive ResetReason where
  | resetButton
  | watchdog
  | host
  deriving DecidableEq

def ResetReason.all : List ResetReason := [resetButton, watchdog, host]

def ResetReason.text : ResetReason → String
  | resetButton => "ResetButton"
  | watchdog => "Watchdog"
  | host => "Host"

end BoardWarden
