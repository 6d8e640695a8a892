import BoardWarden.Clock
import BoardWarden.Text.Words

set_option autoImplicit false

namespace BoardWarden.Emulator

def amountLimit : Nat := 18446744073709551616

/-- An amount, last character first. Any number of `s` may follow the seconds. -/
def spanOfReversed : List Char → Option Span
  | 's' :: 'm' :: rest => (Text.unsigned? amountLimit rest.reverse).map Span.ofMillis
  | cs => (Text.unsigned? amountLimit (cs.dropWhile (· == 's')).reverse).map Span.ofSeconds

def span? (text : String) : Option Span := spanOfReversed text.toList.reverse

end BoardWarden.Emulator
