set_option autoImplicit false

namespace BoardWarden.Text

def dropReturn (line : List Char) : List Char :=
  match line.getLast? with
  | some '\r' => line.dropLast
  | _ => line

/-- The lines of a text. A line feed ends a line, with or without a carriage return before it;
the last line need not be ended. -/
def splitLines (line : List Char) : List Char → List String
  | [] => if line.isEmpty then [] else [String.ofList line.reverse]
  | '\n' :: rest => String.ofList (dropReturn line.reverse) :: splitLines [] rest
  | c :: rest => splitLines (c :: line) rest

def lines (text : String) : List String := splitLines [] text.toList

end BoardWarden.Text
