import GoDecorator.Failure

/-!
# Parsers

A parser reads from the front of a list of tokens. It either fails or returns what it read and the
tokens that are left. Such a list ends in the token for the end of the source, which no parser
takes; where tokens run out altogether, `Token.missing` stands for the next one.

Repetition and nesting are bounded by budgets. Each round of a repetition takes at least one token,
and so does each step into a nested type or expression. A budget of one more than the number of
tokens left is therefore never used up, and that is the budget that `rounds` and the parsers for
types and expressions start with.
-/

namespace GoDecorator

/-- A parser of values of the given type. -/
abbrev Parser (α : Type) : Type := StateT (List Token) (Except ParseError) α

namespace Parser

/-! ### The next token -/

/-- The first of the tokens. -/
def first : List Token → Token
  | [] => .missing
  | t :: _ => t

/-- The next token. -/
def peek : Parser Token := do return first (← get)

/-- What the next token is. -/
def kind : Parser Token.Kind := do return (← peek).kind

/-- Where the next token stands. -/
def here : Parser Span := do return (← peek).span

/-- What the token after the next one is, if there is one. -/
def secondKind? : Parser (Option Token.Kind) := do return (← get)[1]?.map Token.kind

/-- Leaves out the next token. -/
def skip : Parser Unit := modify List.tail

/-- Whether the next token is of the given kind. -/
def isNext (k : Token.Kind) : Parser Bool := do return (← kind) == k

/-- Whether no token but the end of the source is left. -/
def atEnd : Parser Bool := isNext .eof

/-- Whether the next token separates declarations, methods or fields, or the source ends. -/
def atSeparator : Parser Bool := do
  let k ← kind
  return k.isSeparator || k == .eof

/-! ### Failing -/

/-- Fails because the next token is not what was expected. -/
def unexpected {α : Type} (expected : Expectation) : Parser α := do
  let t ← peek
  throw (.unexpectedToken expected (.token t.kind) t.span)

/-- Fails because a budget is used up. -/
def overBudget {α : Type} : Parser α := do throw (.overBudget (← here))

/-! ### Taking tokens -/

/-- Takes the next token if it is of the given kind, and says whether it did. -/
def accept (k : Token.Kind) : Parser Bool := do
  if ← isNext k then
    skip
    return true
  else return false

/-- Takes the next token, which has to be of the given kind. -/
def expect (k : Token.Kind) : Parser Unit := do
  unless ← accept k do unexpected (.token k)

/-- Takes an identifier. -/
def ident : Parser String := do
  let t ← peek
  match t.kind with
  | .ident name =>
    skip
    return name
  | k => throw (.expectedIdent (.token k) t.span)

/-- Leaves out line breaks. -/
def skipNewlines : Parser Unit := modify fun ts ↦ ts.dropWhile fun t ↦ t.kind == .newline

/-- Leaves out line breaks and semicolons. -/
def skipSeparators : Parser Unit := modify fun ts ↦ ts.dropWhile fun t ↦ t.kind.isSeparator

/-! ### What the steps do to the tokens

A step that only looks leaves the tokens as they are, and a step that takes a token leaves the tail.
-/

variable (ts : List Token) (k : Token.Kind)

@[simp]
theorem run_peek : peek.run ts = .ok (first ts, ts) := rfl

@[simp]
theorem run_kind : kind.run ts = .ok ((first ts).kind, ts) := rfl

@[simp]
theorem run_here : here.run ts = .ok ((first ts).span, ts) := rfl

@[simp]
theorem run_secondKind? : secondKind?.run ts = .ok (ts[1]?.map Token.kind, ts) := rfl

@[simp]
theorem run_skip : skip.run ts = .ok ((), ts.tail) := rfl

@[simp]
theorem run_isNext : (isNext k).run ts = .ok ((first ts).kind == k, ts) := rfl

@[simp]
theorem run_skipNewlines :
    skipNewlines.run ts = .ok ((), ts.dropWhile fun t ↦ t.kind == .newline) := rfl

@[simp]
theorem run_skipSeparators :
    skipSeparators.run ts = .ok ((), ts.dropWhile fun t ↦ t.kind.isSeparator) := rfl

@[simp]
theorem run_unexpected {α : Type} (expected : Expectation) :
    (unexpected expected : Parser α).run ts =
      .error (.unexpectedToken expected (.token (first ts).kind)
        (first ts).span) := rfl

@[simp]
theorem run_overBudget {α : Type} :
    (overBudget : Parser α).run ts = .error (.overBudget (first ts).span) := rfl

theorem run_accept :
    (accept k).run ts =
      .ok (if (first ts).kind = k then (true, ts.tail) else (false, ts)) := by
  change StateT.run (if ((first ts).kind == k) = true then _ else _) ts = _
  by_cases h : (first ts).kind = k
  · rw [if_pos h, if_pos (beq_iff_eq.2 h)]
    rfl
  · rw [if_neg h, if_neg (mt beq_iff_eq.1 h)]
    rfl

theorem run_expect :
    (expect k).run ts =
      if (first ts).kind = k then .ok ((), ts.tail)
      else (unexpected (.token k) : Parser Unit).run ts := by
  change ((accept k).run ts >>= fun p ↦ StateT.run (if p.1 = true then pure () else _) p.2) = _
  rw [run_accept]
  by_cases h : (first ts).kind = k
  · rw [if_pos h, if_pos h]
    rfl
  · rw [if_neg h, if_neg h]
    rfl

/-! ### Repetition -/

/-- What a round of a repetition comes to. -/
inductive Round (α : Type) where
  /-- The repetition is over. -/
  | stop
  /-- There is one more item, and the repetition is over. -/
  | last (item : α)
  /-- There is one more item, and another round follows. -/
  | more (item : α)
deriving DecidableEq, Repr

/-- The items of a repetition of at most the given number of rounds. -/
def roundsWithin {α : Type} (round : Parser (Round α)) : Nat → Parser (List α)
  | 0 => overBudget
  | budget + 1 => do
    match ← round with
    | .stop => return []
    | .last item => return [item]
    | .more item => return item :: (← roundsWithin round budget)

/-- The items of a repetition whose rounds each take a token or end it. -/
def rounds {α : Type} (round : Parser (Round α)) : Parser (List α) := do
  roundsWithin round ((← get).length + 1)

/-- The items of a list up to a closing parenthesis, with commas between them. A comma may follow
the last item, and line breaks may stand before and after each one. -/
def commaList {α : Type} (item : Parser α) : Parser (List α) :=
  rounds do
    skipNewlines
    if ← accept (.closing .paren) then return .stop
    let x ← item
    skipNewlines
    if ← accept .comma then return .more x
    expect (.closing .paren)
    return .last x

end Parser

end GoDecorator
