import BoardWarden.Emulator.Dialogue

set_option autoImplicit false

namespace BoardWarden.Emulator

/-- Reads and answers lines until the session ends. -/
partial def converse (input output : IO.FS.Stream) (s : Session) : IO UInt32 := do
  output.putStr Dialogue.prompt
  output.flush
  let line ← input.getLine
  if line.isEmpty then
    output.putStr Dialogue.farewell
    return 0
  match Dialogue.respond s line with
  | .error _ => return 101
  | .ok (text, next) =>
    output.putStr text
    match next with
    | none => return 0
    | some later => converse input output later

end BoardWarden.Emulator

def main : IO UInt32 := do
  let output ← IO.getStdout
  output.putStr (BoardWarden.Emulator.Dialogue.greeting BoardWarden.Emulator.Session.fresh)
  BoardWarden.Emulator.converse (← IO.getStdin) output BoardWarden.Emulator.Session.fresh
