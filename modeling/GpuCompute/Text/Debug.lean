import GpuCompute.Text.Quoted

/-!
# Values on one line

The text in which messages and log records show structured values: records with named fields,
lists in brackets, options, and handles as hexadecimal numbers.
-/

namespace GpuCompute.Text

/-- The items of a list, separated by a comma and a space. -/
def commaJoin (items : List String) : String := ", ".intercalate items

/-- A list in brackets. -/
def showList (items : List String) : String := "[" ++ commaJoin items ++ "]"

/-- A value that may be missing. -/
def showOption : Option String → String
  | none => "None"
  | some s => "Some(" ++ s ++ ")"

/-- A truth value. -/
def showBool (b : Bool) : String := if b then "true" else "false"

/-- A handle: its number in hexadecimal digits. -/
def showHandle (n : Nat) : String := "0x" ++ hex n

/-- A constructor with unnamed arguments. -/
def showTuple (name : String) (args : List String) : String :=
  name ++ "(" ++ commaJoin args ++ ")"

/-- A record with named fields; `more` marks one that has fields besides those shown. -/
def showRecord (name : String) (fields : List (String × String)) (more : Bool := false) : String :=
  let shown := fields.map fun f => f.1 ++ ": " ++ f.2
  let items := if more then shown ++ [".."] else shown
  if items.isEmpty then name else name ++ " \x7b " ++ commaJoin items ++ " \x7d"

end GpuCompute.Text
