import GoDecorator.Decl.Basic

/-!
# The layout of function bodies

A body is printed line by line. The indentation of a line follows the brackets that are open where
it starts: each line that leaves brackets open indents the lines after it by one level, however many
it opens, and the level ends when the nesting falls back to where it was. Lines that only mark a
place, such as `case` clauses and labels, stand one level further left.

Neighbouring lines of the form `key: value,` at the same indentation have their values lined up.
-/

namespace GoDecorator

/-! ### Indentation -/

/-- The brackets that are open between two lines. -/
structure Nesting where
  /-- How many brackets are open. -/
  depth : Nat
  /-- For each level of indentation, how many brackets were open where it started. -/
  levels : List Nat
deriving DecidableEq, Repr

namespace Nesting

/-- Nothing is open. -/
def none : Nesting := ⟨0, []⟩

/-- The number of open brackets after a token, and the lowest number so far. -/
def step (state : Nat × Nat) (t : BodyToken) : Nat × Nat :=
  if t.kind.isOpening then (state.1 + 1, state.2)
  else if t.kind.isClosing then (state.1 - 1, min state.2 (state.1 - 1))
  else state

/-- The nesting after a line. The levels that started at or above the lowest point of the line have
ended, and the line starts one itself if it leaves brackets open. -/
def after (n : Nesting) (line : Line) : Nesting :=
  let (depth, lowest) := line.foldl step (n.depth, n.depth)
  let kept := n.levels.filter (· < lowest)
  ⟨depth, if lowest < depth then kept ++ [lowest] else kept⟩

/-- The number of open brackets at the first token of a line that closes none. -/
def lineDepth (n : Nesting) (line : Line) : Nat :=
  n.depth - (line.takeWhile (·.kind.isClosing)).length

/-- The indentation of a line of a block, before marks are moved to the left. -/
def indent (n : Nesting) (line : Line) : Nat :=
  1 + n.levels.countP (· < n.lineDepth line)

end Nesting

/-- Whether the last token of a line is a colon. -/
def endsWithColon (line : Line) : Bool := line.getLast?.any (·.kind == .colon)

/-- Whether a line only marks a place: a `case` or `default` clause, or a label. -/
def isMark (line : Line) : Bool :=
  match line.head?.map BodyToken.kind with
  | some (.ident word) =>
    endsWithColon line && (word == "case" || word == "default" || line.length == 2)
  | _ => false

/-! ### Lines -/

/-- A line as it is printed. -/
structure PrintedLine where
  /-- The number of tabs in front. -/
  indent : Nat
  /-- The key of a keyed line. -/
  key : Option String
  /-- The number of blanks between the colon after the key and the value. -/
  pad : Nat
  /-- The rest of the line. -/
  text : String
deriving DecidableEq, Repr

/-- The tokens of a line with their blanks; nothing goes before the first token. -/
def tokensText : Line → String
  | [] => ""
  | t :: ts =>
    t.kind.text ++ String.join (ts.map fun t ↦ (if t.spaced then " " else "") ++ t.kind.text)

/-- The key of a line of the form `key: value,` as it stands in a composite literal. -/
def keyOf? : Line → Option String
  | ⟨.ident key, _⟩ :: ⟨.colon, _⟩ :: rest =>
    if key ≠ "case" ∧ key ≠ "default" ∧ rest.getLast?.any (·.kind == .comma) then some key else none
  | _ => none

namespace PrintedLine

/-- A line at the given indentation, its value one blank after its key. -/
def ofLine (indent : Nat) (line : Line) : PrintedLine :=
  match keyOf? line with
  | some key => ⟨indent, some key, 1, tokensText (line.drop 2)⟩
  | none => ⟨indent, none, 1, tokensText line⟩

/-- The number of characters of the key. -/
def keyLength (l : PrintedLine) : Nat := (l.key.map String.length).getD 0

/-- The printed form without the line break. -/
def render (l : PrintedLine) : String :=
  String.ofList (List.replicate l.indent '\t') ++
    (l.key.map fun key ↦ key ++ ":" ++ String.ofList (List.replicate l.pad ' ')).getD "" ++ l.text

end PrintedLine

/-- The lines of a body before alignment; a blank line has nothing to print. -/
def layoutFrom (n : Nesting) : List Line → List (Option PrintedLine)
  | [] => []
  | line :: lines =>
    if line.isEmpty then none :: layoutFrom n lines
    else
      let indent := if isMark line then n.indent line - 1 else n.indent line
      some (.ofLine indent line) :: layoutFrom (n.after line) lines

/-! ### Alignment -/

/-- Whether two neighbouring lines belong to one run: both have a key, at the same indentation. -/
def sameRun : Option PrintedLine → Option PrintedLine → Bool
  | some a, some b => a.key.isSome && b.key.isSome && a.indent == b.indent
  | _, _ => false

/-- The number of characters of the longest key of a run. -/
def keyWidth (run : List (Option PrintedLine)) : Nat :=
  (run.filterMap fun l ↦ l.map PrintedLine.keyLength).foldl max 0

/-- The line with its value one blank after a key of the given width, if it has a key. -/
def PrintedLine.toColumn (width : Nat) (l : PrintedLine) : PrintedLine :=
  if l.key.isSome then { l with pad := 1 + width - l.keyLength } else l

/-- A run of lines with the values lined up after the longest key. -/
def alignRun (run : List (Option PrintedLine)) : List (Option PrintedLine) :=
  run.map (Option.map (PrintedLine.toColumn (keyWidth run)))

/-- The lines with the values of each run of keyed lines lined up. -/
def alignKeys (lines : List (Option PrintedLine)) : List (Option PrintedLine) :=
  (lines.splitBy sameRun).flatMap alignRun

/-- The printed form of a body, with a line break after each line. -/
def Block.text (b : Block) : String :=
  String.join <| (alignKeys (layoutFrom .none b.lines)).map fun line ↦
    (line.map PrintedLine.render).getD "" ++ "\n"

end GoDecorator
