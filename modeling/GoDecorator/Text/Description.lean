import GoDecorator.Text.Quoted

/-!
# Descriptions of values

Messages name the values they are about by their form and parts: a bare form (`Context`), a form
applied to one part (`Slice(Any)`), or a form with named parts (`Map { key: Any, value: Any }`).
The functions here put such a description together from the descriptions of the parts.
-/

namespace GoDecorator.Text

/-- A form with one part. -/
def applied (form part : String) : String := form ++ "(" ++ part ++ ")"

/-- A form with named parts, of which there is at least one. -/
def record (form : String) (parts : List (String × String)) : String :=
  form ++ " \x7b " ++ ", ".intercalate (parts.map fun p ↦ p.1 ++ ": " ++ p.2) ++ " \x7d"

/-- A list of values. -/
def listing (items : List String) : String := "[" ++ ", ".intercalate items ++ "]"

/-- A value that may be missing. -/
def optional : Option String → String
  | none => "None"
  | some part => applied "Some" part

/-- A truth value. -/
def truth (b : Bool) : String := if b then "true" else "false"

end GoDecorator.Text
