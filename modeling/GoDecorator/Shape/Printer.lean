import GoDecorator.Shape.Basic

/-!
# Types as source text

The written form of shapes, parameters and signatures. No parentheses are put around a type: the
form of a shape is the form of its constructor around the forms of its parts.
-/

namespace GoDecorator

/-- Texts with a comma and a space between them. -/
def commaSeparated (items : List String) : String := ", ".intercalate items

/-- Whether a result list is written without parentheses: it is one result without a name. -/
def standsAlone : List Param → Bool
  | [r] => r.name.isNone
  | _ => false

/-- A result list from the forms of the results, with the blank that goes before it. -/
def resultList (rs : List Param) (texts : List String) : String :=
  if rs.isEmpty then ""
  else if standsAlone rs then " " ++ commaSeparated texts
  else " (" ++ commaSeparated texts ++ ")"

mutual

/-- The written form of a type. -/
def Shape.text : Shape → String
  | .primitive p => p.text
  | .pointer s => "*" ++ s.text
  | .named (some q) n => q ++ "." ++ n
  | .named none n => n
  | .slice s => "[]" ++ s.text
  | .map k v => "map[" ++ k.text ++ "]" ++ v.text
  | .function ⟨ps, rs⟩ =>
    "func" ++
      ("(" ++ commaSeparated (Shape.paramTexts ps) ++ ")" ++ resultList rs (Shape.paramTexts rs))
  | .context => "context.Context"
  | .any => "interface{}"
  | .channel .both s => "chan " ++ s.text
  | .channel .send s => "chan<- " ++ s.text
  | .channel .receive s => "<-chan " ++ s.text
  | .emptyStruct => "struct{}"

/-- The written forms of parameters. -/
def Shape.paramTexts : List (ParamOf Shape) → List String
  | [] => []
  | ⟨name, s, variadic⟩ :: ps =>
    ((name.map (· ++ " ")).getD "" ++ (if variadic then "..." else "") ++ s.text) ::
      Shape.paramTexts ps

end

/-- The written form of a parameter or a result. -/
def ParamOf.text (p : Param) : String :=
  (p.name.map (· ++ " ")).getD "" ++ (if p.variadic then "..." else "") ++ p.shape.text

theorem Shape.paramTexts_eq_map (ps : List Param) : paramTexts ps = ps.map ParamOf.text := by
  induction ps with
  | nil => rfl
  | cons p ps ih => simp [paramTexts, ParamOf.text, ih]

/-- A parameter list with its parentheses. -/
def paramListText (ps : List Param) : String := "(" ++ commaSeparated (ps.map ParamOf.text) ++ ")"

/-- A result list with the blank before it; nothing if there are no results. -/
def resultListText (rs : List Param) : String := resultList rs (rs.map ParamOf.text)

/-- The written form of a signature, as it follows the name of a function. -/
def SignatureOf.text (sig : Signature) : String :=
  paramListText sig.params ++ resultListText sig.results

@[simp] theorem Shape.text_function (sig : Signature) :
    (Shape.function sig).text = "func" ++ sig.text := by
  obtain ⟨ps, rs⟩ := sig
  simp [Shape.text, SignatureOf.text, paramListText, resultListText, Shape.paramTexts_eq_map]

end GoDecorator
