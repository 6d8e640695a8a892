import BoardWarden.Halt

set_option autoImplicit false

namespace BoardWarden

structure TachCapture where
  /-- Counter at the latest edge. -/
  previous : Nat
  /-- Whether `previous` belongs to the measurement under way. -/
  latched : Bool
  /-- Counts between the latest two edges, zero when unknown. -/
  period : Nat
  /-- Edges seen, modulo 2 ^ 32. -/
  edges : Nat
  deriving DecidableEq

namespace TachCapture

def fresh : TachCapture := ⟨0, false, 0, 0⟩

def fullScale : Nat := 65535

/-- Counts from `previous` to `counter` when the timer wraps at most once in between. -/
def distance (previous counter reload : Nat) : Nat :=
  if previous < counter then counter - previous else reload + counter + 1 - previous

def capture (t : TachCapture) (counter reload : Nat) : TachCapture :=
  { previous := counter
    latched := true
    period := if t.latched then distance t.previous counter reload else t.period
    edges := (t.edges + 1) % 4294967296 }

/-- No distance is counted from beyond where the timer wraps now. -/
def captureFits (t : TachCapture) (counter reload : Nat) : Bool :=
  !t.latched || decide (t.previous < counter) || decide (t.previous ≤ reload + counter + 1)

def captureWithinWords (t : TachCapture) (counter reload : Nat) : Except Halt TachCapture :=
  if t.captureFits counter reload then .ok (t.capture counter reload) else .error .wordOverflow

/-- The timer wrapped without an edge, so the next edge starts a new measurement. -/
def overflow (t : TachCapture) : TachCapture :=
  { t with latched := false }

def clearPeriod (t : TachCapture) : TachCapture :=
  { t with period := 0 }

def spin (t : TachCapture) (period : Nat) : TachCapture :=
  (t.overflow.capture 0 fullScale).capture period fullScale

end TachCapture

end BoardWarden
