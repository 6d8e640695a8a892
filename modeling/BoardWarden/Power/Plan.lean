import BoardWarden.Rail.Basic

set_option autoImplicit false

namespace BoardWarden

structure PowerPlan where
  /-- Raised on the way to S3. -/
  primary : List Step
  /-- Raised in turn on the way to S0. -/
  secondary : List (List Step)
  daughterboard : Option (List Step)
  /-- The line on which the AP shows that it runs. -/
  apAlive : Option Line
  deriving DecidableEq

namespace PowerPlan

def groupLimit : Nat := 6

/-- The daughterboard comes after the groups of the motherboard. -/
def upperGroups (p : PowerPlan) : List (List Step) :=
  p.secondary ++ p.daughterboard.toList

end PowerPlan

structure PowerTimings where
  /-- How long the AP may take to come alive. -/
  apFirst : Span
  /-- How long a running AP may lose power good. -/
  apDebounce : Span
  resetPulse : Span
  s3Rail : Span
  /-- How long the power button is held to force a shutdown. -/
  shutdownHold : Span
  resetButtonDelay : Span
  watchdogDelay : Span
  poll : Span
  deriving DecidableEq

def PowerTimings.builtIn : PowerTimings :=
  { apFirst := Span.ofSeconds 1
    apDebounce := Span.ofSeconds 1
    resetPulse := Span.ofMillis 1
    s3Rail := Span.ofMillis 100
    shutdownHold := Span.ofSeconds 8
    resetButtonDelay := Span.ofMillis 50
    watchdogDelay := Span.ofMillis 10
    poll := Span.ofMillis 1 }

end BoardWarden
