import GoDecorator.Parser

/-!
# Reading types

The parser for types, and for the parameter and result lists that types nest through. It is written
with the parser for inner types as a parameter, so that `shapeWithin` is a plain recursion on its
budget.

In a parameter list an identifier that stands alone is the name of a parameter if some entry of the
list has both a name and a type, and it is a type otherwise. That is settled after the whole list
has been read, by `resolveParams`.
-/

namespace GoDecorator

/-! ### Parameter lists -/

/-- An entry of a parameter list before it is settled what its identifiers are. -/
inductive ParamEntry where
  /-- An identifier alone. -/
  | lone (name : String) (span : Span)
  /-- A type without a name. -/
  | bare (shape : Shape) (variadic : Bool)
  /-- A name and a type. -/
  | named (name : String) (shape : Shape) (variadic : Bool)
deriving DecidableEq, Repr

namespace ParamEntry

/-- Whether the entry has both a name and a type. -/
def isNamed : ParamEntry → Bool
  | named _ _ _ => true
  | _ => false

/-- The parameter of an entry in a list without names. -/
def toUnnamed : ParamEntry → Param
  | lone name _ => .unnamed (.ofIdent name)
  | bare shape variadic => ⟨none, shape, variadic⟩
  | named _ shape variadic => ⟨none, shape, variadic⟩

/-- Adds an entry of a list with names in front of the parameters that follow it. A name that stands
alone shares the type of the parameter after it. -/
def prepend (entry : ParamEntry) (following : List Param) : Except ParseError (List Param) :=
  match entry with
  | named name shape variadic => .ok (⟨some name, shape, variadic⟩ :: following)
  | lone name span =>
    match following with
    | next :: _ => .ok (⟨some name, next.shape, next.variadic⟩ :: following)
    | [] => .error (.expectedType (.text name) span)
  | bare shape _ => .error (.expectedIdent (.shape shape) .unknown)

end ParamEntry

/-- The parameters of a list with names, from the last entry to the first. -/
def resolveNamed : List ParamEntry → Except ParseError (List Param)
  | [] => .ok []
  | entry :: entries => do entry.prepend (← resolveNamed entries)

/-- The parameters that the entries of a list stand for, one for each entry. -/
def resolveParams (entries : List ParamEntry) : Except ParseError (List Param) :=
  if entries.any ParamEntry.isNamed then resolveNamed entries
  else .ok (entries.map ParamEntry.toUnnamed)

namespace Parser

/-- An entry of a parameter list. -/
def paramEntry (inner : Parser Shape) : Parser ParamEntry := do
  let variadic ← accept .ellipsis
  let t ← peek
  match t.kind, variadic, ← secondKind? with
  | .ident _, false, some .dot => return .bare (← inner) false
  | .ident name, false, _ =>
    skip
    match ← kind with
    | .comma | .closing .paren | .newline => return .lone name t.span
    | _ =>
      let variadic ← accept .ellipsis
      return .named name (← inner) variadic
  | _, _, _ => return .bare (← inner) variadic

/-- A parameter list after its opening parenthesis. -/
def paramList (inner : Parser Shape) : Parser (List Param) := do
  let entries ← commaList (paramEntry inner)
  liftM (resolveParams entries)

/-- The parameters and results of a function. -/
def signatureOf (inner : Parser Shape) : Parser Signature := do
  expect (.opening .paren)
  let params ← paramList inner
  if ← accept (.opening .paren) then
    return ⟨params, ← paramList inner⟩
  else if (← kind).startsType then
    return ⟨params, [.unnamed (← inner)]⟩
  else return ⟨params, []⟩

/-! ### Types -/

/-- The empty braces after `interface` or `struct` inside a type. -/
def emptyBraces (what : Unsupported) (span : Span) : Parser Unit := do
  expect (.opening .brace)
  skipNewlines
  unless ← accept (.closing .brace) do throw (.unsupportedType what span)

/-- The rest of a type that starts with an identifier. -/
def namedShape (name : String) (span : Span) : Parser Shape := do
  let shape ← if ← accept .dot then Shape.ofQualified name <$> ident else pure (.ofIdent name)
  if ← isNext (.opening .square) then throw (.unsupportedType .genericInstantiation span)
  return shape

/-- A type, nested at most as deeply as the budget allows. -/
def shapeWithin : Nat → Parser Shape
  | 0 => overBudget
  | budget + 1 => do
    let inner := shapeWithin budget
    let t ← peek
    match t.kind with
    | .star =>
      skip
      return .pointer (← inner)
    | .opening .square =>
      skip
      unless ← accept (.closing .square) do throw (.unsupportedType .array t.span)
      return .slice (← inner)
    | .keyword .map =>
      skip
      expect (.opening .square)
      let key ← inner
      expect (.closing .square)
      return .map key (← inner)
    | .keyword .chan =>
      skip
      let direction := if ← accept .arrow then .send else .both
      return .channel direction (← inner)
    | .arrow =>
      skip
      expect (.keyword .chan)
      return .channel .receive (← inner)
    | .keyword .func =>
      skip
      return .function (← signatureOf inner)
    | .keyword .interface =>
      skip
      emptyBraces .inlineInterface t.span
      return .any
    | .keyword .struct =>
      skip
      emptyBraces .inlineStruct t.span
      return .emptyStruct
    | .opening .paren =>
      skip
      skipNewlines
      let shape ← inner
      skipNewlines
      expect (.closing .paren)
      return shape
    | .ident name =>
      skip
      namedShape name t.span
    | k => throw (.expectedType (.token k) t.span)

/-- A type. -/
def shape : Parser Shape := do shapeWithin ((← get).length + 1)

/-- The parameters and results of a function. -/
def signature : Parser Signature := signatureOf shape

end Parser

end GoDecorator
