set_option autoImplicit false

/-!
The conditions on which the controller stops for good: built-in bounds in the wrong order, and numbers
that the machine words of the program do not hold. The program is that of a development build, which
checks its arithmetic; with the built-in configuration no stored setting leads to either.
-/

namespace BoardWarden

inductive Halt where
  /-- The limit of a zone's integral is negative or no number. -/
  | integralBounds
  /-- The slowest speed of a fan lies above its fastest. -/
  | speedBounds
  /-- A whole number leaves its word of 32 bits. -/
  | wordOverflow
  /-- A sum of two spans is longer than the longest span. -/
  | spanOverflow
  deriving DecidableEq

def maxUnsigned : Nat := 4294967295

def maxSigned : Nat := 2147483647

def FitsSigned (number : Int) : Prop := -(maxSigned : Int) - 1 ≤ number ∧ number ≤ maxSigned

instance : DecidablePred FitsSigned := fun number =>
  inferInstanceAs (Decidable (-(maxSigned : Int) - 1 ≤ number ∧ number ≤ maxSigned))

end BoardWarden
