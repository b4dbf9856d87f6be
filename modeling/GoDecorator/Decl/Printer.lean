import GoDecorator.Decl.Layout

/-!
# Declarations as source text

The written form of declarations. The members of an interface stand one to a line, embedded
interfaces first; the types of the fields of a struct are lined up.
-/

namespace GoDecorator

/-- The text filled up with blanks to the given number of characters. -/
def padRight (width : Nat) (s : String) : String :=
  s ++ String.ofList (List.replicate (width - s.length) ' ')

/-- The number of characters of the longest field name. -/
def fieldWidth (fields : List Field) : Nat := (fields.map (·.name.length)).foldl max 0

/-- The written form of a field, its type after the longest field name. -/
def Field.text (width : Nat) (f : Field) : String :=
  "\t" ++ padRight width f.name ++ " " ++ f.shape.text ++ "\n"

/-- The written form of a method of an interface. -/
def MethodSpec.text (m : MethodSpec) : String := "\t" ++ m.name ++ m.signature.text ++ "\n"

/-- The written form of the right-hand side of a type declaration. -/
def TypeExpr.text : TypeExpr → String
  | .shape s => s.text
  | .interface ⟨[], []⟩ => "interface{}"
  | .interface ⟨methods, embedded⟩ =>
    "interface \x7b\n" ++ String.join (embedded.map fun s ↦ "\t" ++ s.text ++ "\n") ++
      String.join (methods.map MethodSpec.text) ++ "\x7d"
  | .struct [] => "struct{}"
  | .struct fields =>
    "struct \x7b\n" ++ String.join (fields.map (Field.text (fieldWidth fields))) ++ "\x7d"

/-- The written form of a type declaration. -/
def TypeSpec.text (t : TypeSpec) : String := "type " ++ t.name ++ " " ++ t.definition.text

/-- The written form of a function or a method. -/
def FuncDecl.text (f : FuncDecl) : String :=
  "func " ++ (f.receiver.map fun r ↦ "(" ++ r.text ++ ") ").getD "" ++ f.name ++ f.signature.text ++
    " \x7b\n" ++ f.body.text ++ "\x7d"

/-- The written form of a package variable. -/
def VarSpec.text (v : VarSpec) : String :=
  "var " ++ v.name ++ (v.shape.map fun s ↦ " " ++ s.text).getD "" ++
    (v.value.map fun e ↦ " = " ++ e.text).getD ""

/-- The written form of a declaration. -/
def Decl.text : Decl → String
  | .type spec => spec.text
  | .func decl => decl.text
  | .var spec => spec.text

/-- The written form of declarations, with a blank line between them. -/
def printDecls (decls : List Decl) : String := "\n\n".intercalate (decls.map Decl.text)

end GoDecorator
