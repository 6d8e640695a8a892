import BoardWarden.Halt
import BoardWarden.Text.Field

set_option autoImplicit false

/-!
Board time. An instant counts whole microseconds since start-up and stops at `Instant.last`;
a span counts nanoseconds, of which only whole microseconds reach the clock.
-/

namespace BoardWarden

structure Span where
  nanos : Nat
  deriving DecidableEq

namespace Span

def zero : Span := ⟨0⟩

def ofMicros (n : Nat) : Span := ⟨n * 1000⟩

def ofMillis (n : Nat) : Span := ⟨n * 1000000⟩

def ofSeconds (n : Nat) : Span := ⟨n * 1000000000⟩

def micros (s : Span) : Nat := s.nanos / 1000

/-- Nanoseconds of the longest span: its whole seconds are a number of 64 bits. -/
def longest : Nat := 18446744073709551615 * 1000000000 + 999999999

def add (s t : Span) : Except Halt Span :=
  if s.nanos + t.nanos ≤ longest then .ok ⟨s.nanos + t.nanos⟩ else .error .spanOverflow

end Span

structure Instant where
  micros : Nat
  deriving DecidableEq

namespace Instant

/-- The clock is 64 bits wide and saturates. -/
def last : Nat := 18446744073709551615

def zero : Instant := ⟨0⟩

def ofMillis (n : Nat) : Instant := ⟨min (n * 1000) last⟩

def millis (t : Instant) : Nat := t.micros / 1000

def after (t : Instant) (s : Span) : Instant := ⟨min (t.micros + s.micros) last⟩

def since (t earlier : Instant) : Span := Span.ofMicros (t.micros - earlier.micros)

/-- Seconds with three places, cut and not rounded. -/
def text (t : Instant) : String :=
  let millis := t.millis
  toString (millis / 1000) ++ "." ++ Text.alignRight 3 '0' (toString (millis % 1000)) ++ "s"

end Instant

end BoardWarden
