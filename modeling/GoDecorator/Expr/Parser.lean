import GoDecorator.Shape.Parser

/-!
# Reading expressions

The parser for the expressions that occur outside function bodies: literals, identifiers and
selectors, empty composite literals, operators in front of an operand, and calls.
-/

namespace GoDecorator

/-- The operator in front of an operand that a token stands for. -/
def UnaryOp.ofKind? : Token.Kind → Option UnaryOp
  | .amp => some .address
  | .star => some .deref
  | .arrow => some .receive
  | .op "-" => some .minus
  | .op "+" => some .plus
  | .op "!" => some .not
  | .op "^" => some .complement
  | _ => none

namespace Parser

/-- The selectors that follow an identifier. -/
def selectors : Parser (List String) :=
  rounds do
    match ← kind, ← secondKind? with
    | .dot, some (.ident name) =>
      skip
      skip
      return .more name
    | _, _ => return .stop

/-- The rest of an expression that starts with an identifier: a path, or a composite literal of the
type that the path names. -/
def pathOrComposite (name : String) (span : Span) : Parser Expr := do
  let path := name :: (← selectors)
  unless ← accept (.opening .brace) do return .ident (".".intercalate path)
  expect (.closing .brace)
  match path with
  | [name] => return .composite (.ofIdent name)
  | [qualifier, name] => return .composite (.ofQualified qualifier name)
  | _ => throw (.expectedType (.text (".".intercalate path)) span)

/-- An expression without operators in front and calls behind. -/
def primary (inner : Parser Expr) : Parser Expr := do
  let t ← peek
  match t.kind with
  | .int text | .float text | .str text | .rune text =>
    skip
    return .literal text
  | .opening .square | .keyword .map | .keyword .struct =>
    let s ← shape
    expect (.opening .brace)
    expect (.closing .brace)
    return .composite s
  | .ident name =>
    skip
    pathOrComposite name t.span
  | .opening .paren =>
    skip
    let e ← inner
    expect (.closing .paren)
    return e
  | _ => unexpected .expression

/-- An argument of a call. -/
def argument (inner : Parser Expr) : Parser Expr := do
  let e ← inner
  if ← accept .ellipsis then return .spread e else return e

/-- The argument lists that follow an expression, one for each call. -/
def argumentLists (inner : Parser Expr) : Parser (List (List Expr)) :=
  rounds do
    if ← accept (.opening .paren) then return .more (← commaList (argument inner))
    else return .stop

/-- An expression, nested at most as deeply as the budget allows. -/
def exprWithin : Nat → Parser Expr
  | 0 => overBudget
  | budget + 1 => do
    let inner := exprWithin budget
    match UnaryOp.ofKind? (← kind) with
    | some op =>
      skip
      return .unary op (← inner)
    | none =>
      let e ← primary inner
      return (← argumentLists inner).foldl .call e

/-- An expression. -/
def expr : Parser Expr := do exprWithin ((← get).length + 1)

end Parser

end GoDecorator
