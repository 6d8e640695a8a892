set_option autoImplicit false

namespace BoardWarden.Text

def isBlank (c : Char) : Bool :=
  let n := c.toNat
  (decide (0x09 ≤ n) && decide (n ≤ 0x0d)) || n == 0x20 || n == 0x85 || n == 0xa0 || n == 0x1680 ||
    (decide (0x2000 ≤ n) && decide (n ≤ 0x200a)) || n == 0x2028 || n == 0x2029 || n == 0x202f ||
    n == 0x205f || n == 0x3000

/-- Words of the rest of a line, `word` being the one under way, last character first. -/
def splitWords (word : List Char) : List Char → List String
  | [] => if word.isEmpty then [] else [String.ofList word.reverse]
  | c :: rest =>
    if isBlank c then
      if word.isEmpty then splitWords [] rest else String.ofList word.reverse :: splitWords [] rest
    else splitWords (c :: word) rest

def words (text : String) : List String := splitWords [] text.toList

def trimmed (text : String) : String :=
  String.ofList ((text.toList.dropWhile isBlank).reverse.dropWhile isBlank).reverse

def sameLetters (a b : String) : Bool := a.map Char.toLower == b.map Char.toLower

def valueOf (digits : List Char) : Nat :=
  digits.foldl (fun n c => n * 10 + (c.toNat - '0'.toNat)) 0

def digits? (cs : List Char) : Option Nat :=
  if cs.isEmpty then none else if cs.all Char.isDigit then some (valueOf cs) else none

/-- A number below `limit`, with or without a plus sign. -/
def unsigned? (limit : Nat) (cs : List Char) : Option Nat :=
  let digits := match cs with
    | '+' :: rest => rest
    | _ => cs
  (digits? digits).filter fun n => decide (n < limit)

/-- A number of at least `-limit` and below `limit`, with or without a sign. -/
def signed? (limit : Nat) (cs : List Char) : Option Int :=
  match cs with
  | '-' :: rest => ((digits? rest).filter fun n => decide (n ≤ limit)).map fun n => -(n : Int)
  | _ => (unsigned? limit cs).map fun n => (n : Int)

end BoardWarden.Text
