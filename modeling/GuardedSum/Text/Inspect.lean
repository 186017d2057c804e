import GuardedSum.Text.Quoted

namespace GuardedSum.Text

def decimal (n : Int32) : String :=
  n.toInt.repr

def commas (parts : List String) : String :=
  ", ".intercalate parts

def variant (name : String) (parts : List String) : String :=
  name ++ "(" ++ commas parts ++ ")"

def record (name : String) (fields : List (String × String)) : String :=
  name ++ " \x7b " ++ commas (fields.map fun f => f.1 ++ ": " ++ f.2) ++ " \x7d"

def pair (a b : String) : String :=
  variant "" [a, b]

def option : Option String → String
  | none => "None"
  | some a => variant "Some" [a]

end GuardedSum.Text
