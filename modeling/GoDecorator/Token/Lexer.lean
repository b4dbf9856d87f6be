import GoDecorator.Text.Numeric
import GoDecorator.Token.Basic

/-!
# From text to tokens

The lexer cuts a source text into gaps and lexemes. A gap is a stretch of spaces, tabs, carriage
returns and comments; line breaks are lexemes of their own. Every scanner here takes the remaining
text and returns the part it reads together with the rest, so that nothing is lost: the two parts
are the text (`gap_append`, `lexeme_append`). A lexeme is never empty, which is why `scanFrom` ends.

The one text that has no tokens is one that ends right after a backslash inside a string or rune
literal: the backslash stands for an escape whose second character is missing.
-/

namespace GoDecorator.Token

/-! ### Gaps -/

/-- What kind of gap the scanner is inside of. -/
inductive GapMode where
  /-- Outside any comment. -/
  | plain
  /-- In a comment up to the end of the line. -/
  | line
  /-- In a comment between `/*` and `*/`. -/
  | block
deriving DecidableEq, Repr

/-- The gap that the text starts with, and the rest. A line comment leaves the line break in the
rest; a block comment without its end takes all that is left. -/
def gap : GapMode → List Char → List Char × List Char
  | _, [] => ([], [])
  | .plain, '/' :: '/' :: cs => let (g, rest) := gap .line cs; ('/' :: '/' :: g, rest)
  | .plain, '/' :: '*' :: cs => let (g, rest) := gap .block cs; ('/' :: '*' :: g, rest)
  | .plain, c :: cs =>
    if c = ' ' ∨ c = '\t' ∨ c = '\r' then let (g, rest) := gap .plain cs; (c :: g, rest)
    else ([], c :: cs)
  | .line, c :: cs =>
    if c = '\n' then ([], c :: cs) else let (g, rest) := gap .line cs; (c :: g, rest)
  | .block, '*' :: '/' :: cs => let (g, rest) := gap .plain cs; ('*' :: '/' :: g, rest)
  | .block, c :: cs => let (g, rest) := gap .block cs; (c :: g, rest)

/-- A gap and what follows it make up the text. -/
theorem gap_append (mode : GapMode) (cs : List Char) : (gap mode cs).1 ++ (gap mode cs).2 = cs := by
  fun_induction gap mode cs <;> simp_all

/-- What follows a gap is no longer than the text. -/
theorem length_gap_le (mode : GapMode) (cs : List Char) : (gap mode cs).2.length ≤ cs.length := by
  have h := congrArg List.length (gap_append mode cs)
  rw [List.length_append] at h
  omega

/-! ### Lexemes -/

/-- A lexeme of the remaining text: what it is, its characters, and what follows them. -/
structure Lexeme where
  /-- What the lexeme is. -/
  kind : Kind
  /-- Its characters. -/
  text : List Char
  /-- What follows. -/
  rest : List Char
deriving DecidableEq, Repr

/-- An identifier or a keyword that starts with the given character. -/
def word (c : Char) (cs : List Char) : Lexeme :=
  let text := c :: cs.takeWhile Text.isIdentPart
  let name := String.ofList text
  ⟨((Keyword.ofText? name).map .keyword).getD (.ident name), text, cs.dropWhile Text.isIdentPart⟩

/-- The rest of a number, what follows it, and whether the number is a floating-point one. In a
number that does not start with `0x` an `e` takes a sign with it and makes the number a
floating-point one; so does a point, of which there is at most one and none before another. -/
def number (hexadecimal float : Bool) : List Char → List Char × List Char × Bool
  | [] => ([], [], float)
  | c :: cs =>
    if c.isAlphanum || c == '_' then
      if (c == 'e' || c == 'E') && !hexadecimal then
        match cs with
        | [] => ([c], [], true)
        | sign :: cs' =>
          if sign == '+' || sign == '-' then
            let (text, rest, float) := number hexadecimal true cs'
            (c :: sign :: text, rest, float)
          else
            let (text, rest, float) := number hexadecimal true (sign :: cs')
            (c :: text, rest, float)
      else
        let (text, rest, float) := number hexadecimal float cs
        (c :: text, rest, float)
    else if c == '.' && !float && cs.head? != some '.' then
      let (text, rest, float) := number hexadecimal true cs
      (c :: text, rest, float)
    else ([], c :: cs, float)

/-- The rest of a literal after its opening quote, and what follows it. A literal ends with the
same quote; one that is not raw also ends before a line break, and there a backslash takes the next
character with it. There is no answer if that character is missing. -/
def quotedTail (quote : Char) : List Char → Option (List Char × List Char)
  | [] => some ([], [])
  | c :: cs =>
    if c = quote then some ([c], cs)
    else if c = '\\' ∧ quote ≠ '\x60' then
      match cs with
      | [] => none
      | d :: cs' => (quotedTail quote cs').map fun (text, rest) ↦ (c :: d :: text, rest)
    else if c = '\n' ∧ quote ≠ '\x60' then some ([], c :: cs)
    else (quotedTail quote cs).map fun (text, rest) ↦ (c :: text, rest)

/-- The symbols. Of two symbols that can start at the same place, the longer one comes first. -/
def symbols : List Kind :=
  [.op "<<=", .op ">>=", .op "&^=", .ellipsis, .op "&&", .op "||", .arrow, .op "++", .op "--",
   .op "==", .op "!=", .op "<=", .op ">=", .define, .op "+=", .op "-=", .op "*=", .op "/=",
   .op "%=", .op "&=", .op "|=", .op "^=", .op "<<", .op ">>", .op "&^", .op "+", .op "-", .op "/",
   .op "%", .op "|", .op "^", .op "<", .op ">",
   .opening .paren, .closing .paren, .opening .brace, .closing .brace, .opening .square,
   .closing .square, .comma, .dot, .semicolon, .colon, .star, .amp, .assign, .op "!", .op "~"]

/-- The symbol that the text starts with, or else the character that starts no token. -/
def symbol (c : Char) (cs : List Char) : Lexeme :=
  match symbols.find? fun k ↦ k.text.toList.isPrefixOf (c :: cs) with
  | some k => ⟨k, k.text.toList, (c :: cs).drop k.text.toList.length⟩
  | none => ⟨.unknown c, [c], cs⟩

/-- Whether a number starts here: with a digit, or with a point before a digit. -/
def startsNumber (c : Char) (cs : List Char) : Bool :=
  c.isDigit || (c == '.' && cs.head?.any Char.isDigit)

/-- The lexeme that starts with the given character, which belongs to no gap. There is none if the
text ends inside an escape. -/
def lexeme (c : Char) (cs : List Char) : Option Lexeme :=
  if Text.isIdentStart c then some (word c cs)
  else if startsNumber c cs then
    let (text, rest, float) := number ("0x".toList.isPrefixOf (c :: cs)) false (c :: cs)
    some ⟨if float then .float (String.ofList text) else .int (String.ofList text), text, rest⟩
  else if c = '"' ∨ c = '\x60' ∨ c = '\'' then
    (quotedTail c cs).map fun (tail, rest) ↦
      let text := c :: tail
      ⟨if c = '\'' then .rune (String.ofList text) else .str (String.ofList text), text, rest⟩
  else if c = '\n' then some ⟨.newline, [c], cs⟩
  else some (symbol c cs)

/-! ### What the scanners read and leave -/

/-- A number and what follows it make up the text. -/
theorem number_append (hexadecimal float : Bool) (cs : List Char) :
    (number hexadecimal float cs).1 ++ (number hexadecimal float cs).2.1 = cs := by
  fun_induction number hexadecimal float cs <;> simp_all

/-- A literal and what follows it make up the text. -/
theorem quotedTail_append {quote : Char} {cs : List Char} {r : List Char × List Char}
    (h : quotedTail quote cs = some r) : r.1 ++ r.2 = cs := by
  fun_induction quotedTail quote cs generalizing r with
  | case1 => simp [← Option.some.inj h]
  | case2 => simp [← Option.some.inj h]
  | case3 => simp at h
  | case4 c hq hb d cs' ih =>
    obtain ⟨a, ha, rfl⟩ := Option.map_eq_some_iff.1 h
    simp [ih ha]
  | case5 => simp [← Option.some.inj h]
  | case6 c cs hq hb hn ih =>
    obtain ⟨a, ha, rfl⟩ := Option.map_eq_some_iff.1 h
    simp [ih ha]

/-- A symbol and what follows it make up the text. -/
theorem symbol_append (c : Char) (cs : List Char) :
    (symbol c cs).text ++ (symbol c cs).rest = c :: cs := by
  unfold symbol
  split
  · rename_i k hk
    have hp := List.find?_some hk
    rw [List.isPrefixOf_iff_prefix] at hp
    obtain ⟨t, ht⟩ := hp
    rw [← ht]
    simp
  · simp

/-- Every symbol has at least one character. -/
theorem text_symbol_ne_nil (c : Char) (cs : List Char) : (symbol c cs).text ≠ [] := by
  unfold symbol
  split
  · rename_i k hk
    have hm := List.mem_of_find?_eq_some hk
    have hall : ∀ k ∈ symbols, k.text.toList ≠ [] := by decide +kernel
    exact hall k hm
  · simp

/-- A number that starts here has at least one character. -/
theorem number_ne_nil {c : Char} {cs : List Char} (h : startsNumber c cs = true)
    (hexadecimal : Bool) : (number hexadecimal false (c :: cs)).1 ≠ [] := by
  simp only [startsNumber, Bool.or_eq_true, Bool.and_eq_true, beq_iff_eq] at h
  unfold number
  rcases h with h | ⟨rfl, h⟩
  · have ha : c.isAlphanum = true := by simp [Char.isAlphanum, h]
    simp only [ha, Bool.true_or, if_true]
    split
    · cases cs with
      | nil => simp
      | cons d ds => simp only; split <;> simp
    · simp
  · have ha : ('.' : Char).isAlphanum = false := by decide
    cases cs with
    | nil => simp at h
    | cons d ds =>
      have hd : d ≠ '.' := by
        rintro rfl
        simp [show ('.' : Char).isDigit = false by decide] at h
      simp [ha, hd]

/-- A lexeme and what follows it make up the text. -/
theorem lexeme_append {c : Char} {cs : List Char} {lx : Lexeme} (h : lexeme c cs = some lx) :
    lx.text ++ lx.rest = c :: cs := by
  unfold lexeme at h
  split at h
  · obtain rfl := Option.some.inj h
    simp [word]
  · split at h
    · obtain rfl := Option.some.inj h
      exact number_append _ _ _
    · split at h
      · obtain ⟨r, hr, rfl⟩ := Option.map_eq_some_iff.1 h
        simp [quotedTail_append hr]
      · split at h
        · obtain rfl := Option.some.inj h
          simp
        · obtain rfl := Option.some.inj h
          exact symbol_append c cs

/-- A lexeme has at least one character. -/
theorem text_ne_nil_of_lexeme {c : Char} {cs : List Char} {lx : Lexeme}
    (h : lexeme c cs = some lx) : lx.text ≠ [] := by
  unfold lexeme at h
  split at h
  · obtain rfl := Option.some.inj h
    simp [word]
  · split at h
    · rename_i hn
      obtain rfl := Option.some.inj h
      exact number_ne_nil hn _
    · split at h
      · obtain ⟨r, hr, rfl⟩ := Option.map_eq_some_iff.1 h
        simp
      · split at h
        · obtain rfl := Option.some.inj h
          simp
        · obtain rfl := Option.some.inj h
          exact text_symbol_ne_nil c cs

/-- What follows a lexeme is shorter than the text. -/
theorem length_rest_lt_of_lexeme {c : Char} {cs : List Char} {lx : Lexeme}
    (h : lexeme c cs = some lx) : lx.rest.length < (c :: cs).length := by
  have happ := congrArg List.length (lexeme_append h)
  have hpos := List.length_pos_iff.2 (text_ne_nil_of_lexeme h)
  rw [List.length_append] at happ
  omega

/-! ### Scanning a source -/

/-- The number of line breaks in a text. -/
def lineBreaks (cs : List Char) : Nat := cs.count '\n'

/-- The tokens of the remaining text, given how many characters came before it and which line it
starts on. The last token is the end of the source. -/
def scanFrom (offset line : Nat) (cs : List Char) : Option (List Token) :=
  match _hg : gap .plain cs with
  | (skipped, []) =>
    let stop := offset + skipped.length
    some [⟨.eof, ⟨stop, stop, line + lineBreaks skipped⟩⟩]
  | (skipped, c :: cs') =>
    match _hl : lexeme c cs' with
    | none => none
    | some lx =>
      let start := offset + skipped.length
      let stop := start + lx.text.length
      let line := line + lineBreaks skipped
      (scanFrom stop (line + lineBreaks lx.text) lx.rest).map (⟨lx.kind, ⟨start, stop, line⟩⟩ :: ·)
termination_by cs.length
decreasing_by
  have hle := length_gap_le .plain cs
  have hlt := length_rest_lt_of_lexeme _hl
  rw [_hg] at hle
  exact Nat.lt_of_lt_of_le hlt hle

/-- The tokens of a source text, up to and including its end; none if the text ends right after a
backslash inside a literal. -/
def scan (source : String) : Option (List Token) := scanFrom 0 1 source.toList

end GoDecorator.Token
