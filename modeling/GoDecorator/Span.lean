/-!
# Places in a source text

A span is a stretch of a source text, counted in characters, together with the line it starts on.
-/

namespace GoDecorator

/-- A stretch of a source text. -/
structure Span where
  /-- The number of characters before the stretch. -/
  start : Nat
  /-- The number of characters before the end of the stretch. -/
  stop : Nat
  /-- The line of the first character, counted from one. -/
  line : Nat
deriving DecidableEq, Repr, Inhabited

namespace Span

/-- The span of what stands in no source text. -/
def unknown : Span := ⟨0, 0, 0⟩

/-- Whether the second stretch starts where the first one ends. -/
def touches (s t : Span) : Bool := s.stop == t.start

/-- The place as messages give it. -/
def text (s : Span) : String := "line " ++ toString s.line

end Span

end GoDecorator
