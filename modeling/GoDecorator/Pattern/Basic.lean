import GoDecorator.Descriptor.Checks
import GoDecorator.Reading

/-!
# Patterns

A pattern generates declarations from the descriptor of an interface or a function type. It consists
of a condition on the descriptor and of a generator, which is only run where the condition holds.
The generator fills in templates and reads the results back as declarations.

What the patterns have in common is here as well: how generated code refers to the wrapped
interface, to its methods and to their parameters.
-/

namespace GoDecorator

/-- A pattern. -/
structure Pattern where
  /-- The name by which it is asked for. -/
  name : String
  /-- What it generates, in one sentence. -/
  description : String
  /-- The kind of declaration it is for. -/
  kind : DescriptorKind
  /-- Whether it applies to a descriptor. -/
  validate : Descriptor → Check Unit
  /-- The declarations it generates from a descriptor that it applies to. -/
  generate : Descriptor → Traced (List Decl)

/-! ### The wrapped interface -/

namespace Descriptor

/-- The wrapped type as generated code refers to it. -/
def wrapped (d : Descriptor) (package : String) : Shape := .named (some package) d.name

/-- The name of the field that holds the wrapped value, other than the given names. -/
def fieldName (d : Descriptor) (taken : List String) : String :=
  ((Names.ofReserved taken).allocate (Shape.named none d.name).variableName).1

end Descriptor

/-! ### Calls -/

namespace Method

/-- The call of the method on the wrapped value, which is a field of the receiver. -/
def delegate (m : Method) (receiver field : String) (args : List Expr) : Expr :=
  .call (.ident (receiver ++ "." ++ field ++ "." ++ m.name)) args

/-- The statement that makes a call and returns its results, if the method has any. -/
def forward (m : Method) (call : Expr) : String :=
  if m.results.isEmpty then call.text else "return " ++ call.text

end Method

/-- The type of the predicates over parameters of the given types. -/
def predicateOver (params : List Param) : Outcome Shape :=
  Shape.read ("func(" ++ commaSeparated (params.map (·.withoutName.text)) ++ ") bool")

/-- The list with the element at an index replaced, or a crash if there is none. -/
def replaceAt {α : Type} (xs : List α) (i : Nat) (x : α) : Outcome (List α) :=
  if i < xs.length then .ok (xs.set i x) else .error (.crash (.noElement i xs.length))

/-! ### Names of measurements -/

/-- A name in small letters, with an underscore before each capital that starts a word. A capital
starts a word if it follows a small letter, or if it follows a capital and a small letter follows
it. -/
def snakeFrom (previous : Option Char) : List Char → List Char
  | [] => []
  | c :: cs =>
    if Text.isUppercase c then
      let startsWord := previous.any Text.isLowercase ||
        (previous.any Text.isUppercase && cs.head?.any Text.isLowercase)
      (if startsWord then ['_'] else []) ++ Text.lowercase c ++ snakeFrom (some c) cs
    else c :: snakeFrom (some c) cs

/-- A name in small letters with underscores between its words. -/
def snakeCase (name : String) : String := String.ofList (snakeFrom none name.toList)

/-- The name under which calls of a method of an interface are measured. -/
def measureName (interface method : String) : String :=
  snakeCase interface ++ "_" ++ snakeCase method

end GoDecorator
