import BoardWarden.Emulator.Session

set_option autoImplicit false

namespace BoardWarden.Emulator.Dialogue

def greeting (s : Session) : String :=
  "EC emulator ready (" ++ s.powerState.text ++
    "). Type `help` for commands or `exit` to quit.\n"

def prompt : String := "> "

def farewell : String := "\n"

def isExit (line : String) : Bool := Text.sameLetters line "exit" || Text.sameLetters line "quit"

def respond (s : Session) (line : String) : Except Halt (String × Option Session) :=
  let command := Text.trimmed line
  if command.isEmpty then .ok ("", some s)
  else if isExit command then .ok ("Session closed.\n", none)
  else
    match s.handle command with
    | .error halt => .error halt
    | .ok (output, later) => .ok (String.join (output.map (· ++ "\n")), some later)

/-- Everything that is written while the lines of an input are read. -/
def answers : List String → Session → Except Halt String
  | [], _ => .ok (prompt ++ farewell)
  | line :: rest, s =>
    match respond s line with
    | .error halt => .error halt
    | .ok (output, none) => .ok (prompt ++ output)
    | .ok (output, some later) => (answers rest later).map fun others => prompt ++ output ++ others

def transcript (input : String) : Except Halt String :=
  (answers (Text.lines input) Session.fresh).map fun output => greeting Session.fresh ++ output

end BoardWarden.Emulator.Dialogue
