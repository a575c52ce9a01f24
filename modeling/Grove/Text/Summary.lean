/-
Summaries: one line that names a thing and shows some of its fields. A summary
that leaves fields out ends in two dots.
-/
import Grove.Text.Quoted

namespace Grove.Text

/-- A name with its fields in braces. -/
def summary (name : String) (fields : List (String × String)) (complete : Bool) : String :=
  let shown := fields.map fun f => f.1 ++ ": " ++ f.2
  let all := if complete then shown else shown ++ [".."]
  name ++ " \x7b " ++ ", ".intercalate all ++ " \x7d"

/-- A name with one argument. -/
def application (name argument : String) : String := name ++ "(" ++ argument ++ ")"

/-- An optional part of a summary. -/
def optional {α : Type} (write : α → String) : Option α → String
  | none => "None"
  | some a => application "Some" (write a)

/-- A truth value. -/
def truth (b : Bool) : String := if b then "true" else "false"

/-- A list in brackets. -/
def bracketed (items : List String) : String := "[" ++ ", ".intercalate items ++ "]"

end Grove.Text
