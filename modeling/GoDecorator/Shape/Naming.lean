import GoDecorator.Shape.Basic
import GoDecorator.Text.Lowering

/-!
# Names for values

The name of a variable is taken from the type of its value: a short customary name for a predeclared
type, the type's own name with a small first letter for a named one, and a plural for a collection.
A name that would be a reserved word of Go gets a suffix.
-/

namespace GoDecorator

/-- The reserved words of Go. -/
def reservedWords : List String :=
  ["break", "case", "chan", "const", "continue", "default", "defer", "else", "fallthrough", "for",
   "func", "go", "goto", "if", "import", "interface", "map", "package", "range", "return",
   "select", "struct", "switch", "type", "var"]

/-- The text with its first character in lower case. -/
def lowerFirst (name : String) : String := String.ofList (Text.lowerFirst name.toList)

/-- The plural of a name; a name in `s` is its own plural. -/
def pluralize (name : String) : String :=
  if name.toList.getLast? = some 's' then name else name ++ "s"

/-- The name itself, or another one if it is a reserved word. -/
def escapeReserved (name : String) : String :=
  if name ∈ reservedWords then name ++ "Val" else name

/-- The customary name for a value of a predeclared type. -/
def Primitive.valueName (p : Primitive) : String :=
  if p = .string then "str"
  else if p = .bool then "b"
  else if p = .error then "err"
  else if p.isSigned then "i"
  else if p.isUnsigned then "u"
  else if p.isFloat then "f"
  else "c"

namespace Shape

/-- The name for a value of a type, reserved words not excluded. -/
def baseName : Shape → String
  | .pointer s => s.baseName
  | .named _ name => lowerFirst name
  | .primitive p => p.valueName
  | .slice s => pluralize s.baseName
  | .map _ value => pluralize value.baseName
  | .context => "ctx"
  | .function _ => "fn"
  | .channel _ _ => "ch"
  | .emptyStruct => "signal"
  | .any => "thing"

/-- The name for a variable of a type. -/
def variableName (s : Shape) : String := escapeReserved s.baseName

end Shape

end GoDecorator
