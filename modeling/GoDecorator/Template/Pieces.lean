import GoDecorator.Failure
import GoDecorator.Text.Numeric

/-!
# The pieces of a template

A template is text with placeholders. A placeholder is an identifier between double braces; all else
is literal text, a single brace included. What stands between two opening braces and the next
closing brace has to be an identifier, and the closing brace has to be double.
-/

namespace GoDecorator.Template

/-- A piece of a template. -/
inductive Piece where
  /-- Text that stays as it is. -/
  | literal (text : String)
  /-- A place for the value bound to the name. -/
  | placeholder (name : String)
deriving DecidableEq, Repr

/-- The source text of a piece. -/
def Piece.text : Piece → String
  | literal t => t
  | placeholder name => "\x7b\x7b" ++ name ++ "\x7d\x7d"

/-- The number of bytes of a text in UTF-8. -/
def byteLength : List Char → Nat
  | [] => 0
  | c :: cs => c.utf8Size + byteLength cs

@[simp]
theorem byteLength_append (cs ds : List Char) :
    byteLength (cs ++ ds) = byteLength cs + byteLength ds := by
  induction cs with
  | nil => simp [byteLength]
  | cons c cs ih => simp [byteLength, ih, Nat.add_assoc]

/-- Puts the literal text read so far, given from its end, in front of the pieces after it. -/
def withLiteral (reversed : List Char) (pieces : List Piece) : List Piece :=
  if reversed.isEmpty then pieces else .literal (String.ofList reversed.reverse) :: pieces

mutual

/-- The pieces of a text, where `reversed` is the literal text before it, given from its end, and
`offset` the number of bytes before the text. -/
def piecesFrom (offset : Nat) (reversed : List Char) : List Char → Except Error (List Piece)
  | [] => .ok (withLiteral reversed [])
  | '{' :: '{' :: cs => do return withLiteral reversed (← placeholderFrom offset [] cs)
  | c :: cs => piecesFrom (offset + c.utf8Size) (c :: reversed) cs

/-- The pieces of a text inside a placeholder, where `reversed` is the part of its name before the
text, given from its end, and `offset` the number of bytes before the placeholder. -/
def placeholderFrom (offset : Nat) (reversed : List Char) : List Char → Except Error (List Piece)
  | [] => .error (.unterminatedPlaceholder offset)
  | '}' :: '}' :: cs => do
    let name := reversed.reverse
    unless Text.isIdentifier name do
      throw (.invalidPlaceholder ("\x7b\x7b" ++ String.ofList name ++ "\x7d\x7d"))
    let pieces ← piecesFrom (offset + byteLength name + 4) [] cs
    return .placeholder (String.ofList name) :: pieces
  | '}' :: _ =>
    .error (.invalidPlaceholder ("\x7b\x7b" ++ String.ofList reversed.reverse ++ "\x7d"))
  | c :: cs => placeholderFrom offset (c :: reversed) cs

end

/-- The pieces of a template. -/
def pieces (template : String) : Except Error (List Piece) := piecesFrom 0 [] template.toList

/-- The names of the placeholders, in order. -/
def placeholders (ps : List Piece) : List String :=
  ps.filterMap fun
    | .literal _ => none
    | .placeholder name => some name

end GoDecorator.Template
