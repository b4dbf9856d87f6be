import GoDecorator.Expr.Parser

/-!
# Reading declarations

The parser for source files. Imports are read and forgotten; type declarations may be grouped in
parentheses. A function body is read only as far as its brackets: it ends at the first closing brace
where no bracket is open, and of its tokens the kinds and the places of blanks are kept.
-/

namespace GoDecorator

/-! ### Function bodies -/

/-- A body token after the token with the given span on the same line, if there is one. -/
def BodyToken.ofToken (previous : Option Span) (t : Token) : BodyToken :=
  ⟨t.kind, previous.any fun p ↦ !p.touches t.span⟩

/-- Reads a body to its closing brace. The result is the rest of the current line, the lines after
it, and the tokens after the brace. `opening` is the place of the opening brace, `previous` the
place of the last token on the current line, and `depth` the number of open brackets. -/
def bodyLines (opening : Span) (previous : Option Span) (depth : Nat) :
    List Token → Except ParseError (Line × List Line × List Token)
  | [] => .error (.unbalancedBlock opening)
  | t :: ts => do
    let take (depth : Nat) : Except ParseError (Line × List Line × List Token) := do
      let (line, lines, rest) ← bodyLines opening (some t.span) depth ts
      return (.ofToken previous t :: line, lines, rest)
    match t.kind with
    | .eof => throw (.unbalancedBlock opening)
    | .newline =>
      let (line, lines, rest) ← bodyLines opening none depth ts
      return ([], line :: lines, rest)
    | .closing bracket =>
      match depth with
      | 0 => if bracket = .brace then return ([], [], ts) else throw (.unbalancedBlock t.span)
      | depth + 1 => take depth
    | .opening _ => take (depth + 1)
    | _ => take depth

namespace Parser

/-- A function body with its braces. -/
def block : Parser Block := do
  let opening ← here
  expect (.opening .brace)
  let (line, lines, rest) ← liftM (bodyLines opening none 0 (← get))
  set rest
  return .ofLines (line :: lines)

/-! ### Types -/

/-- A member of an interface. -/
inductive Member where
  | method (method : MethodSpec)
  | embedded (shape : Shape)
deriving DecidableEq, Repr

/-- The interface with the given members. -/
def interfaceOf (members : List Member) : InterfaceType where
  methods := members.filterMap fun
    | .method m => some m
    | .embedded _ => none
  embedded := members.filterMap fun
    | .method _ => none
    | .embedded s => some s

/-- A member of an interface. -/
def member : Parser Member := do
  let name ← ident
  if ← isNext (.opening .paren) then return .method ⟨name, ← signature⟩
  else if ← accept .dot then return .embedded (.ofQualified name (← ident))
  else return .embedded (.ofIdent name)

/-- The body of an interface after its opening brace. -/
def interfaceBody : Parser InterfaceType :=
  interfaceOf <$> rounds do
    skipSeparators
    if ← accept (.closing .brace) then return .stop
    let span ← here
    if ← atEnd then throw (.unbalancedBlock span)
    let m ← member
    unless (← atSeparator) || (← isNext (.closing .brace)) do
      throw (.unsupportedType .typeConstraints span)
    return .more m

/-- Further names after a first one, each after a comma. -/
def moreNames : Parser (List String) :=
  rounds do
    if ← accept .comma then return .more (← ident) else return .stop

/-- The body of a struct after its opening brace. -/
def structBody : Parser (List Field) :=
  List.flatten <$> rounds do
    skipSeparators
    if ← accept (.closing .brace) then return .stop
    let span ← here
    if ← atEnd then throw (.unbalancedBlock span)
    let name ← ident
    let names := name :: (← moreNames)
    if (← atSeparator) || (← isNext (.closing .brace)) || (← isNext .dot) then
      throw (.unsupportedType .embeddedField span)
    let s ← shape
    return .more (names.map fun name ↦ ⟨name, s⟩)

/-- The right-hand side of a type declaration. -/
def typeExpr : Parser TypeExpr := do
  match ← kind with
  | .keyword .interface =>
    skip
    expect (.opening .brace)
    return .interface (← interfaceBody)
  | .keyword .struct =>
    skip
    expect (.opening .brace)
    return .struct (← structBody)
  | _ => return .shape (← shape)

/-- A type declaration after the keyword. -/
def typeSpec : Parser TypeSpec := do
  let name ← ident
  if ← isNext (.opening .square) then
    unless (← secondKind?) = some (.closing .square) do
      throw (.unsupportedType .typeParameters (← here))
  let _ ← accept .assign
  return ⟨name, ← typeExpr⟩

/-- A group of type declarations after its opening parenthesis. -/
def typeGroup : Parser (List TypeSpec) :=
  rounds do
    skipSeparators
    if ← accept (.closing .paren) then return .stop
    let spec ← typeSpec
    unless (← atSeparator) || (← isNext (.closing .paren)) do unexpected .endOfTypeSpec
    return .more spec

/-- The type declarations after one keyword. -/
def typeDecl : Parser (List TypeSpec) := do
  expect (.keyword .type)
  if ← accept (.opening .paren) then typeGroup else return [← typeSpec]

/-! ### Other declarations -/

/-- An import, single or in a group. -/
def importDecl : Parser Unit := do
  expect (.keyword .imports)
  if ← accept (.opening .paren) then
    modify fun ts ↦ ts.dropWhile fun t ↦ t.kind != .closing .paren && t.kind != .eof
    unless ← accept (.closing .paren) do throw (.unbalancedBlock (← here))
  else
    if let .ident _ ← kind then skip
    if let .str _ ← kind then skip else unexpected (.token (.str ""))

/-- The receiver of a method, if there is one. -/
def receiver : Parser (Option Param) := do
  let span ← here
  if ← accept (.opening .paren) then
    match ← paramList shape with
    | [r] => return some r
    | rs => throw (.unexpectedToken .singleReceiver (.receivers rs.length) span)
  else return none

/-- A function or a method. -/
def funcDecl : Parser FuncDecl := do
  expect (.keyword .func)
  let receiver ← receiver
  let name ← ident
  let sig ← signature
  return ⟨receiver, name, sig, ← block⟩

/-- A package variable. -/
def varSpec : Parser VarSpec := do
  expect (.keyword .var)
  let name ← ident
  let untyped := (← isNext .assign) || (← atSeparator)
  let s ← if untyped then pure none else some <$> shape
  if ← accept .assign then return ⟨name, s, some (← expr)⟩ else return ⟨name, s, none⟩

/-! ### Files -/

/-- The declarations that the next keyword starts. -/
def topLevel : Parser (List Decl) := do
  match ← kind with
  | .keyword .imports =>
    importDecl
    return []
  | .keyword .type => return (← typeDecl).map .type
  | .keyword .func => return [.func (← funcDecl)]
  | .keyword .var => return [.var (← varSpec)]
  | _ => unexpected .declaration

/-- A source file. -/
def file : Parser SourceFile := do
  skipSeparators
  expect (.keyword .package)
  let package ← ident
  let decls ← rounds do
    skipSeparators
    if ← atEnd then return .stop
    let ds ← topLevel
    unless ← atSeparator do unexpected .endOfDeclaration
    return .more ds
  return ⟨package, decls.flatten⟩

end Parser

end GoDecorator
