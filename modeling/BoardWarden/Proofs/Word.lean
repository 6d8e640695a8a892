import Mathlib.Algebra.BigOperators.Ring.List
import Mathlib.Algebra.Order.BigOperators.Group.List
import Mathlib.Algebra.Order.Ring.Nat

set_option autoImplicit false

namespace BoardWarden.Word

def unsigned (number : Nat) : Option Nat := if number ≤ 4294967295 then some number else none

def wide (number : Nat) : Option Nat := if number ≤ 18446744073709551615 then some number else none

def minus (number taken : Nat) : Option Nat := if taken ≤ number then some (number - taken) else none

def quotient (number divisor : Nat) : Option Nat :=
  if divisor = 0 then none else some (number / divisor)

def add (total : Nat) (number : Option Nat) : Option Nat :=
  number.bind fun number => unsigned (total + number)

def sum (numbers : List (Option Nat)) : Option Nat := numbers.foldlM add 0

variable {number other : Nat}

theorem unsigned_of (fits : number ≤ 4294967295) : unsigned number = some number := if_pos fits

theorem wide_of (fits : number ≤ 18446744073709551615) : wide number = some number := if_pos fits

theorem minus_of (below : other ≤ number) : minus number other = some (number - other) := if_pos below

theorem quotient_of (divides : other ≠ 0) : quotient number other = some (number / other) :=
  if_neg divides

theorem foldlM_add {numbers : List Nat} {total : Nat} (fits : total + numbers.sum ≤ 4294967295) :
    (numbers.map some).foldlM add total = some (total + numbers.sum) := by
  induction numbers generalizing total with
  | nil => rfl
  | cons number rest ih =>
    rw [List.sum_cons, ← Nat.add_assoc] at fits ⊢
    have here : add total (some number) = some (total + number) := unsigned_of (by omega)
    simp only [List.map_cons, List.foldlM_cons, here, Option.bind_eq_bind, Option.bind_some]
    exact ih fits

theorem sum_of {numbers : List Nat} (fits : numbers.sum ≤ 4294967295) :
    sum (numbers.map some) = some numbers.sum := by
  rw [sum, foldlM_add (by omega), Nat.zero_add]

end BoardWarden.Word
