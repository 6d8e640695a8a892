import BoardWarden.Panel
import BoardWarden.Text.Lines

set_option autoImplicit false

namespace BoardWarden.Console

open Text (lines)

def milestone : ChipsetEvent → String
  | .preInit => "pre-init"
  | .startup => "startup"
  | .resume => "resume"
  | .suspend => "suspend"
  | .shutdown => "shutdown"

def milestoneLine (event : ChipsetEvent) : String := "chipset " ++ milestone event

def capacity : Nat := 768

def fill (room : Nat) : List String → Bool × String
  | [] => (true, "")
  | piece :: rest =>
    if piece.utf8ByteSize ≤ room then
      let others := fill (room - piece.utf8ByteSize) rest
      (others.1, piece ++ others.2)
    else (false, "")

def render (s : Panel) : Bool × String := fill capacity s.pieces

def statusLines (s : Panel) : List String :=
  let rendered := render s
  lines rendered.2 ++ if rendered.1 then [] else ["status truncated"]

def wholeLines (s : Panel) : List String :=
  let shown := lines (render s).2
  ((shown.zip (lines s.text)).filter fun (a, b) => a == b).map (·.1) ++
    (statusLines s).drop shown.length

def endedPart (text : String) : String :=
  String.ofList (text.toList.reverse.dropWhile (· != '\n')).reverse

end BoardWarden.Console
