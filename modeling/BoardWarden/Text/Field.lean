set_option autoImplicit false

namespace BoardWarden.Text

def alignRight (width : Nat) (fill : Char) (text : String) : String :=
  String.ofList (List.replicate (width - text.length) fill) ++ text

def alignLeft (width : Nat) (text : String) : String :=
  text ++ String.ofList (List.replicate (width - text.length) ' ')

def blanks (count : Nat) : String :=
  String.ofList (List.replicate count ' ')

def yesNo (value : Bool) : String :=
  if value then "yes" else "no"

end BoardWarden.Text
