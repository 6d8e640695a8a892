import BoardWarden.Rail.Basic

set_option autoImplicit false

namespace BoardWarden.Rail

def limit : Nat := 48

/-- Rails are numbered by one byte; rows past that have no number. -/
def numberLimit : Nat := 256

def depthWithin (table : List Rail) : Nat → RailId → Nat
  | 0, _ => 0
  | bound + 1, rail =>
    match table[rail.index]? with
    | none => 0
    | some row => if row.parent = rail then 0 else depthWithin table bound row.parent + 1

def depth (table : List Rail) (rail : RailId) : Nat :=
  depthWithin table table.length rail

def numbersWhere (table : List Rail) (p : RailId → Rail → Bool) : List RailId :=
  (table.zipIdx.filter fun (row, i) => decide (i < numberLimit) && p ⟨i⟩ row).map fun (_, i) => ⟨i⟩

def roots (table : List Rail) : List RailId :=
  numbersWhere table fun rail row => row.parent = rail

def children (table : List Rail) (parent : RailId) : List RailId :=
  numbersWhere table fun rail row => row.parent = parent && rail != parent

/-- Puts rails on a bounded stack, the last of the list at the bottom; a full stack takes no more. -/
def stackUp (rails stack : List RailId) : List RailId :=
  rails.foldr (fun rail stack => if stack.length < limit then rail :: stack else stack) stack

/-- Depth-first walk. A rail that was listed is not listed again, and a full list ends the walk. -/
def walk (table : List Rail) (listed : List (RailId × Nat)) (stack : List RailId) :
    List (RailId × Nat) :=
  match stack with
  | [] => listed
  | rail :: rest =>
    if listed.any (fun entry => entry.1 = rail) then walk table listed rest
    else if listed.length < limit then
      walk table (listed ++ [(rail, depth table rail)]) (stackUp (children table rail) rest)
    else listed
termination_by (limit - listed.length, stack.length)
decreasing_by
  · exact Prod.Lex.right _ (by simp)
  · exact Prod.Lex.left _ _ (by simp only [List.length_append, List.length_singleton]; omega)

def dependencyOrder (table : List Rail) : List (RailId × Nat) :=
  walk table [] (stackUp (roots table) [])

end BoardWarden.Rail
