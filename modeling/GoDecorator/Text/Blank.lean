import GoDecorator.Text.CharRange

/-!
# Blanks

The characters with the Unicode property `White_Space`, and the text without the blanks at its ends.
-/

namespace GoDecorator.Text

/-- The blank characters. -/
def blankTable : List CharRange :=
  [⟨0x9, 0xD, 1⟩, ⟨0x20, 0x20, 1⟩, ⟨0x85, 0x85, 1⟩, ⟨0xA0, 0xA0, 1⟩, ⟨0x1680, 0x1680, 1⟩,
   ⟨0x2000, 0x200A, 1⟩, ⟨0x2028, 0x2029, 1⟩, ⟨0x202F, 0x202F, 1⟩, ⟨0x205F, 0x205F, 1⟩,
   ⟨0x3000, 0x3000, 1⟩]

/-- Whether the character is blank. -/
def isBlank (c : Char) : Bool := inTable blankTable c.toNat

/-- The text without the blanks it starts with. -/
def trimStart (cs : List Char) : List Char := cs.dropWhile isBlank

/-- The text without the blanks it ends with. -/
def trimEnd (cs : List Char) : List Char := (cs.reverse.dropWhile isBlank).reverse

/-- The text without the blanks at its ends. -/
def trim (s : String) : String := String.ofList (trimEnd (trimStart s.toList))

/-- Whether every character of the text is blank. -/
def isBlankText (s : String) : Bool := s.toList.all isBlank

end GoDecorator.Text
