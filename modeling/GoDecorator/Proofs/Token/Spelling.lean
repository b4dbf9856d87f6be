import GoDecorator.Proofs.Text.Identifiers
import GoDecorator.Token.Lexer

/-!
# How a single token is spelled

A token is read back from its text if the character after it does not draw it further. This file
says which characters do: `Kind.ReadsBefore k next` is the statement that the lexer reads the text
of `k` as `k`, **whatever stands after the next character**, and `Kind.endsBefore` is a test for it
(`readsBefore_of_endsBefore`).

One character of look-ahead is enough for all tokens that generated code is made of. It is not
exact, since a point is kept away from another point even where no third one follows, but nothing
here writes two points in a row except as an ellipsis. `Kind.ReadsAt k rest` is the exact statement,
about one text that follows.

## One kind of token after the other

* A **word** goes on as long as the characters can stand in a name (`readsBefore_wordKind`).
* A **symbol** goes on if the next character makes a longer symbol of it (`Kind.continuations`). The
  list of symbols puts longer ones first, and that is all that `symbol_of_mem` needs of it. A point
  before a digit and a stroke before a stroke or a star are lost to numbers and comments
  (`Kind.clashesWith`).
* A **string** ends with its quote, in front of anything (`readsBefore_str`).
* A **number** goes on through digits, letters and points, and through a sign after an exponent.
  Whether a sign is taken depends on what stands before it, so the lemmas about numbers follow the
  cases of the scanner, and `drawnIntoNumber` is the coarse answer that holds in all of them.

## Terminators

The characters of `terminators` end every token (`Kind.Closed`), so that a text can be put together
from parts with these characters between them without looking at the parts. Some symbols are read
back in front of anything at all (`Kind.isLoose`).
-/

namespace GoDecorator.Token

/-! ### Reading one token -/

/-- **The lexer reads the text of the token as the token** in front of the given text. -/
def Kind.ReadsAt (k : Kind) (rest : List Char) : Prop :=
  ∃ c cs, k.text.toList ++ rest = c :: cs ∧ gap .plain (c :: cs) = ([], c :: cs) ∧
    lexeme c cs = some ⟨k, k.text.toList, rest⟩

/-- **The lexer reads the text of the token as the token where the given character follows**, or
where the text ends. -/
def Kind.ReadsBefore (k : Kind) (next : Option Char) : Prop :=
  ∀ rest : List Char, rest.head? = next → k.ReadsAt rest

/-- No gap starts with a character that is neither a blank nor the start of a comment. -/
theorem gap_plain_cons {c : Char} {cs : List Char} (hb : c ≠ ' ' ∧ c ≠ '\t' ∧ c ≠ '\r')
    (hs : c = '/' → cs.head? ≠ some '/' ∧ cs.head? ≠ some '*') :
    gap .plain (c :: cs) = ([], c :: cs) := by
  unfold gap
  split
  · simp_all
  · simp_all
  · simp_all
  · rename_i h
    obtain ⟨rfl, rfl⟩ := List.cons.inj h
    rw [if_neg (by simp [hb])]
  all_goals simp_all

/-- No gap starts with a character that can start a name. -/
theorem gap_plain_of_isIdentStart {c : Char} (h : Text.isIdentStart c = true) (cs : List Char) :
    gap .plain (c :: cs) = ([], c :: cs) := by
  refine gap_plain_cons ⟨?_, ?_, ?_⟩ fun hs ↦ ?_
  · exact Text.ne_of_isIdentStart h (by decide)
  · exact Text.ne_of_isIdentStart h (by decide)
  · exact Text.ne_of_isIdentStart h (by decide)
  · exact absurd hs (Text.ne_of_isIdentStart h (by decide))

/-! ### Words -/

/-- What a word is: a keyword, or an identifier. -/
def wordKind (name : String) : Kind := ((Keyword.ofText? name).map .keyword).getD (.ident name)

/-- A word that is no keyword is an identifier. -/
theorem wordKind_of_ofText?_eq_none {name : String} (h : Keyword.ofText? name = none) :
    wordKind name = .ident name := by
  rw [wordKind, h]
  rfl

/-- The text of a keyword is that keyword. -/
theorem wordKind_text (word : Keyword) : wordKind word.text = .keyword word := by
  rw [wordKind, Keyword.ofText?_text]
  rfl

/-- A word is written as itself. -/
theorem text_wordKind (name : String) : (wordKind name).text = name := by
  unfold wordKind
  cases h : Keyword.ofText? name with
  | none => rfl
  | some word =>
    rw [Keyword.ofText?] at h
    have hname := List.find?_some h
    exact beq_iff_eq.1 hname

/-- The part of a text with a given property, where what follows lacks it. -/
theorem takeWhile_append_of_head? {p : Char → Bool} {cs rest : List Char} (h : ∀ c ∈ cs, p c = true)
    (hr : rest.head?.any p = false) : (cs ++ rest).takeWhile p = cs := by
  rw [List.takeWhile_append_of_pos h]
  cases rest with
  | nil => simp
  | cons d ds =>
    have hd : p d = false := by simpa using hr
    simp [hd]

theorem dropWhile_append_of_head? {p : Char → Bool} {cs rest : List Char} (h : ∀ c ∈ cs, p c = true)
    (hr : rest.head?.any p = false) : (cs ++ rest).dropWhile p = rest := by
  rw [List.dropWhile_append_of_pos h]
  cases rest with
  | nil => simp
  | cons d ds =>
    have hd : p d = false := by simpa using hr
    simp [hd]

/-- The rest after the longest such part starts with no such character. -/
theorem head?_dropWhile_any (p : Char → Bool) (cs : List Char) :
    (cs.dropWhile p).head?.any p = false := by
  have hnot := List.head?_dropWhile_not p cs
  cases hd : (cs.dropWhile p).head? with
  | none => rfl
  | some d =>
    rw [hd] at hnot
    exact hnot

/-- A word is read up to the first character that cannot stand in it. -/
theorem lexeme_word {c : Char} {cs rest : List Char} (hc : Text.isIdentStart c = true)
    (hcs : ∀ d ∈ cs, Text.isIdentPart d = true) (hr : rest.head?.any Text.isIdentPart = false) :
    lexeme c (cs ++ rest) =
      some ⟨wordKind (String.ofList (c :: cs)), c :: cs, rest⟩ := by
  rw [lexeme, if_pos hc]
  simp only [word, takeWhile_append_of_head? hcs hr, dropWhile_append_of_head? hcs hr, wordKind]

/-- **An identifier is read as a word** in front of any character that cannot stand in it. -/
theorem readsBefore_wordKind {name : String} (h : Text.isIdentifier name.toList = true)
    {next : Option Char} (hn : next.any Text.isIdentPart = false) :
    (wordKind name).ReadsBefore next := by
  intro rest hrest
  rw [Kind.ReadsAt, text_wordKind]
  cases hname : name.toList with
  | nil =>
    rw [hname] at h
    simp [Text.isIdentifier] at h
  | cons c cs =>
    rw [hname, Text.isIdentifier, Bool.and_eq_true, List.all_eq_true] at h
    refine ⟨c, cs ++ rest, rfl, gap_plain_of_isIdentStart h.1 _, ?_⟩
    rw [lexeme_word h.1 h.2 (by rw [hrest]; exact hn), ← hname, String.ofList_toList]

/-! ### Symbols -/

/-- The characters that make a longer symbol of a symbol. -/
def Kind.continuations (k : Kind) : List Char :=
  symbols.filterMap fun s ↦
    if k.text.toList.isPrefixOf s.text.toList then
      (s.text.toList.drop k.text.toList.length).head?
    else none

/-- Every symbol has a text. -/
theorem text_ne_nil_of_mem_symbols {k : Kind} (hk : k ∈ symbols) : k.text.toList ≠ [] := by
  have hall : ∀ s ∈ symbols, s.text.toList ≠ [] := by decide
  exact hall k hk

/-- No symbol is listed after a symbol that it starts with. -/
theorem pairwise_symbols :
    symbols.Pairwise fun a b ↦ ¬ a.text.toList.isPrefixOf b.text.toList = true := by
  decide

/-- **A symbol is read as itself if the next character does not continue it.** -/
theorem symbol_of_mem {k : Kind} (hk : k ∈ symbols) {rest : List Char}
    (hn : ∀ d, rest.head? = some d → d ∉ k.continuations) {c : Char} {cs : List Char}
    (hcs : k.text.toList ++ rest = c :: cs) : symbol c cs = ⟨k, k.text.toList, rest⟩ := by
  obtain ⟨as, bs, hsym⟩ := List.append_of_mem hk
  have hfind : symbols.find? (fun s ↦ s.text.toList.isPrefixOf (c :: cs)) = some k := by
    refine List.find?_eq_some_iff_append.2 ⟨?_, as, bs, hsym, ?_⟩
    · rw [← hcs, List.isPrefixOf_iff_prefix]
      exact List.prefix_append _ _
    · intro s hs
      have hpair : s.text.toList.isPrefixOf k.text.toList = false := by
        have h := pairwise_symbols
        rw [hsym] at h
        exact Bool.eq_false_iff.2 ((List.pairwise_append.1 h).2.2 s hs k (by simp))
      rw [Bool.not_eq_true', Bool.eq_false_iff, Ne, List.isPrefixOf_iff_prefix, ← hcs]
      intro hp
      rcases List.prefix_or_prefix_of_prefix hp (List.prefix_append _ _) with hle | ⟨u, hu⟩
      · rw [List.isPrefixOf_iff_prefix.2 hle] at hpair
        cases hpair
      · -- the longer symbol goes on with the next character
        rw [← hu, List.prefix_append_right_inj] at hp
        cases u with
        | nil =>
          rw [List.append_nil] at hu
          rw [hu, List.isPrefixOf_iff_prefix.2 (List.prefix_refl _)] at hpair
          cases hpair
        | cons d u =>
          obtain ⟨v, hv⟩ := hp
          refine hn d (by rw [← hv]; rfl) ?_
          refine List.mem_filterMap.2 ⟨s, by rw [hsym]; simp [hs], ?_⟩
          rw [if_pos (by rw [List.isPrefixOf_iff_prefix, ← hu]; exact List.prefix_append _ _), ← hu,
            List.drop_left]
          rfl
  rw [symbol, hfind]
  simp only [Lexeme.mk.injEq, true_and]
  rw [← hcs, List.drop_left]

/-- The first character of a symbol starts no word, no number of its own, no literal and no gap. -/
theorem head_symbols :
    ∀ k ∈ symbols, ∀ c ∈ k.text.toList.head?,
      Text.isIdentStart c = false ∧ c.isDigit = false ∧ c ∉ ['"', '\x60', '\'', '\n'] ∧
        c ∉ [' ', '\t', '\r'] := by
  decide

/-- Only the point starts a symbol that is read as a number before a digit, and only the stroke
starts one that is read as a comment. -/
theorem second_symbols :
    ∀ k ∈ symbols, k ≠ .dot → k ≠ .op "/" →
      (k.text.toList.head? = some '.' → (k.text.toList.drop 1).head? = some '.') ∧
      (k.text.toList.head? = some '/' → (k.text.toList.drop 1).head? = some '=') := by
  decide

/-- Whether the next character starts something else together with the symbol: a number after a
point, or a comment after a stroke. -/
def Kind.clashesWith (k : Kind) (next : Option Char) : Bool :=
  (k == .dot && next.any Char.isDigit) || (k == .op "/" && next.any (· ∈ ['/', '*']))

theorem lexeme_symbol {c : Char} {cs : List Char} (hi : Text.isIdentStart c = false)
    (hn : startsNumber c cs = false) (hq : c ∉ ['"', '\x60', '\'', '\n']) :
    lexeme c cs = some (symbol c cs) := by
  simp only [List.mem_cons, List.not_mem_nil, or_false, not_or] at hq
  rw [lexeme, if_neg (by simp [hi]), if_neg (by simp [hn]), if_neg (by simp [hq]), if_neg hq.2.2.2]

section Symbol

variable {k : Kind} {c : Char} {t rest : List Char}

theorem text_dot : Kind.dot.text.toList = ['.'] := by decide

theorem text_stroke : (Kind.op "/").text.toList = ['/'] := by decide

/-- A symbol starts no comment, unless it clashes with the next character. -/
theorem gap_plain_symbol (hk : k ∈ symbols) (hct : k.text.toList = c :: t)
    (hclash : k.clashesWith rest.head? = false) :
    gap .plain (c :: (t ++ rest)) = ([], c :: (t ++ rest)) := by
  refine gap_plain_cons (by simpa using (head_symbols k hk c (by simp [hct])).2.2.2) ?_
  rintro rfl
  by_cases hop : k = .op "/"
  · subst hop
    obtain rfl : [] = t := (List.cons.inj (text_stroke.symm.trans hct)).2
    rw [List.nil_append]
    cases hrest : rest.head? with
    | none => simp
    | some d =>
      rw [hrest, Kind.clashesWith, Bool.or_eq_false_iff] at hclash
      simpa using hclash.2
  · have hdot : k ≠ .dot := by
      rintro rfl
      exact absurd (List.cons.inj (text_dot.symm.trans hct)).1 (by decide)
    have hsecond := (second_symbols k hk hdot hop).2 (by rw [hct]; rfl)
    rw [hct, List.drop_one, List.tail_cons] at hsecond
    rw [List.head?_append, hsecond, Option.some_or]
    decide

/-- A symbol starts no number, unless it clashes with the next character. -/
theorem startsNumber_symbol (hk : k ∈ symbols) (hct : k.text.toList = c :: t)
    (hclash : k.clashesWith rest.head? = false) : startsNumber c (t ++ rest) = false := by
  rw [startsNumber, (head_symbols k hk c (by simp [hct])).2.1, Bool.false_or,
    Bool.and_eq_false_iff]
  by_cases hc : c = '.'
  · subst hc
    right
    by_cases hdot : k = .dot
    · subst hdot
      obtain rfl : [] = t := (List.cons.inj (text_dot.symm.trans hct)).2
      rw [Kind.clashesWith, Bool.or_eq_false_iff, BEq.rfl, Bool.true_and] at hclash
      exact hclash.1
    · have hop : k ≠ .op "/" := by
        rintro rfl
        exact absurd (List.cons.inj (text_stroke.symm.trans hct)).1 (by decide)
      have hsecond := (second_symbols k hk hdot hop).1 (by rw [hct]; rfl)
      rw [hct, List.drop_one, List.tail_cons] at hsecond
      rw [List.head?_append, hsecond]
      rfl
  · exact .inl (by simp [hc])

end Symbol

theorem readsBefore_symbol {k : Kind} (hk : k ∈ symbols) {next : Option Char}
    (hn : ∀ d, next = some d → d ∉ k.continuations) (hclash : k.clashesWith next = false) :
    k.ReadsBefore next := by
  rintro rest rfl
  obtain ⟨c, t, hct⟩ := List.exists_cons_of_ne_nil (text_ne_nil_of_mem_symbols hk)
  obtain ⟨hi, -, hq, -⟩ := head_symbols k hk c (by simp [hct])
  refine ⟨c, t ++ rest, by rw [hct]; rfl, gap_plain_symbol hk hct hclash, ?_⟩
  rw [lexeme_symbol hi (startsNumber_symbol hk hct hclash) hq,
    symbol_of_mem hk hn (by rw [hct]; rfl)]

/-- A character that belongs to no other token is a token of its own. -/
theorem readsBefore_unknown {c : Char} (hi : Text.isIdentStart c = false) (hd : c.isDigit = false)
    (hq : c ∉ ['"', '\x60', '\'', '\n']) (hb : c ∉ [' ', '\t', '\r'])
    (hs : ∀ s ∈ symbols, s.text.toList.head? ≠ some c) (next : Option Char) :
    (Kind.unknown c).ReadsBefore next := by
  intro rest _
  have hnosym : ∀ s ∈ symbols, ¬ s.text.toList.isPrefixOf (c :: rest) = true := by
    intro s hs' hp
    rw [List.isPrefixOf_iff_prefix] at hp
    obtain ⟨t, ht⟩ := hp
    obtain ⟨d, u, hu⟩ := List.exists_cons_of_ne_nil (text_ne_nil_of_mem_symbols hs')
    rw [hu, List.cons_append] at ht
    exact hs s hs' (by rw [hu, (List.cons.inj ht).1]; rfl)
  have hdot : c ≠ '.' := by
    rintro rfl
    exact hs .dot (by decide) (by decide)
  have hslash : c ≠ '/' := by
    rintro rfl
    exact hs (.op "/") (by decide) (by decide)
  refine ⟨c, rest, by simp [Kind.text], gap_plain_cons (by simpa using hb) (absurd · hslash), ?_⟩
  rw [lexeme_symbol hi (by simp [startsNumber, hd, hdot]) hq, symbol,
    List.find?_eq_none.2 hnosym]
  simp [Kind.text]

/-! ### Literals -/

/-- Whether a text can stand between double quotes as it is. -/
def isQuotable (cs : List Char) : Bool := cs.all fun c ↦ c != '"' && c != '\\' && c != '\n'

@[simp] theorem isQuotable_append (cs ds : List Char) :
    isQuotable (cs ++ ds) = (isQuotable cs && isQuotable ds) := List.all_append

theorem quotedTail_of_isQuotable {cs : List Char} (h : isQuotable cs = true) (rest : List Char) :
    quotedTail '"' (cs ++ '"' :: rest) = some (cs ++ ['"'], rest) := by
  induction cs with
  | nil =>
    rw [List.nil_append, quotedTail.eq_def]
    simp
  | cons c cs ih =>
    simp only [isQuotable, List.all_cons, Bool.and_eq_true, bne_iff_ne] at h
    rw [List.cons_append, quotedTail.eq_def]
    simp only
    rw [if_neg h.1.1.1, if_neg (by simp [h.1.1.2]), if_neg (by simp [h.1.2]), ih h.2]
    rfl

/-- **A text between double quotes is read as one literal** in front of anything. -/
theorem readsBefore_str {s : String} (h : isQuotable s.toList = true) (next : Option Char) :
    (Kind.str ("\"" ++ s ++ "\"")).ReadsBefore next := by
  intro rest _
  have htext : ("\"" ++ s ++ "\"").toList = '"' :: (s.toList ++ ['"']) := by simp
  refine ⟨'"', s.toList ++ '"' :: rest, by simp [Kind.text], ?_, ?_⟩
  · exact gap_plain_cons (by decide) fun hs ↦ absurd hs (by decide)
  · rw [lexeme, if_neg (by decide), if_neg (by simp [startsNumber]), if_pos (by simp),
      quotedTail_of_isQuotable h]
    simp only [Option.map_some, Kind.text, htext]
    rw [← htext, String.ofList_toList, if_neg (by decide)]

/-! ### Numbers -/

/-- The characters that a number can go on with. -/
def isNumberPart (c : Char) : Bool := c.isAlphanum || c == '_'

/-- The signs that an exponent takes with it. -/
def isSign (c : Char) : Bool := c == '+' || c == '-'

/-- The characters that can be drawn into a number. -/
def drawnIntoNumber (c : Char) : Bool := isNumberPart c || c ∈ ['.', '+', '-']

theorem isSign_of_isNumberPart {c : Char} (h : isNumberPart c = true) : isSign c = false := by
  have hplus : c ≠ '+' := by
    rintro rfl
    exact absurd h (by decide)
  have hminus : c ≠ '-' := by
    rintro rfl
    exact absurd h (by decide)
  simp [isSign, hplus, hminus]

theorem of_not_drawnIntoNumber {c : Char} (h : drawnIntoNumber c = false) :
    isNumberPart c = false ∧ isSign c = false ∧ c ≠ '.' := by
  simp only [drawnIntoNumber, Bool.or_eq_false_iff, decide_eq_false_iff_not, List.mem_cons,
    not_or] at h
  obtain ⟨hpart, hpoint, hplus, hminus, -⟩ := h
  exact ⟨hpart, by simp [isSign, hplus, hminus], hpoint⟩

section Steps

variable {hexadecimal float g : Bool} {c sign : Char} {cs text rest : List Char}

/-- A number ends before a character that is no part of it, and before a point if it has one already
or if another point follows. -/
theorem number_stops (hpart : rest.head?.any isNumberPart = false)
    (hpoint : rest.head? = some '.' → float = true ∨ rest.tail.head? = some '.') :
    number hexadecimal float rest = ([], rest, float) := by
  cases rest with
  | nil => rw [number]
  | cons c cs =>
    have hc : ¬ (c.isAlphanum || c == '_') = true := by simpa [isNumberPart] using hpart
    have hstop : ¬ (c == '.' && !float && cs.head? != some '.') = true := by
      intro hdrawn
      simp only [Bool.and_eq_true, beq_iff_eq, Bool.not_eq_true', bne_iff_ne] at hdrawn
      obtain ⟨⟨rfl, hfloat⟩, hnext⟩ := hdrawn
      rcases hpoint rfl with h | h
      · rw [h] at hfloat
        cases hfloat
      · exact hnext h
    rw [number.eq_def]
    simp only [hc, hstop, Bool.false_eq_true, if_false]

/-- A digit or a letter, if it is not the mark of an exponent. -/
theorem number_part (hc : isNumberPart c = true)
    (he : ¬ ((c == 'e' || c == 'E') && !hexadecimal) = true)
    (h : number hexadecimal float cs = (text, rest, g)) :
    number hexadecimal float (c :: cs) = (c :: text, rest, g) := by
  rw [isNumberPart] at hc
  rw [number.eq_def]
  simp only [hc, he, h, if_true, Bool.false_eq_true, if_false]

/-- The mark of an exponent makes the number a floating-point one. -/
theorem number_exponent (hc : isNumberPart c = true)
    (he : ((c == 'e' || c == 'E') && !hexadecimal) = true) (hs : cs.head?.any isSign = false)
    (h : number hexadecimal true cs = (text, rest, g)) :
    number hexadecimal float (c :: cs) = (c :: text, rest, g) := by
  rw [isNumberPart] at hc
  rw [number.eq_def]
  cases cs with
  | nil =>
    rw [number, Prod.mk.injEq, Prod.mk.injEq] at h
    obtain ⟨rfl, rfl, rfl⟩ := h
    simp only [hc, he, if_true]
  | cons s cs =>
    have hs' : (s == '+' || s == '-') = false := hs
    simp only [hc, he, hs', h, if_true, Bool.false_eq_true, if_false]

/-- The mark of an exponent takes a sign with it. -/
theorem number_exponent_sign (hc : isNumberPart c = true)
    (he : ((c == 'e' || c == 'E') && !hexadecimal) = true) (hs : isSign sign = true)
    (h : number hexadecimal true cs = (text, rest, g)) :
    number hexadecimal float (c :: sign :: cs) = (c :: sign :: text, rest, g) := by
  rw [isNumberPart] at hc
  rw [isSign] at hs
  rw [number, if_pos hc, if_pos he]
  simp only [hs, if_true, h]

/-- The first point, if no other one follows it. -/
theorem number_point (hone : cs.head? ≠ some '.')
    (h : number hexadecimal true cs = (text, rest, g)) :
    number hexadecimal false ('.' :: cs) = ('.' :: text, rest, g) := by
  have hc : ¬ ('.'.isAlphanum || '.' == '_') = true := by decide
  have hpoint : ('.' == '.' && !false && cs.head? != some '.') = true := by simpa using hone
  rw [number.eq_def]
  simp only [hc, hpoint, h, if_true, Bool.false_eq_true, if_false]

end Steps

theorem number_of_not_drawn {rest : List Char} (h : rest.head?.any drawnIntoNumber = false)
    (hexadecimal float : Bool) : number hexadecimal float rest = ([], rest, float) := by
  cases rest with
  | nil => rw [number]
  | cons c cs =>
    obtain ⟨hpart, -, hpoint⟩ := of_not_drawnIntoNumber (c := c) h
    exact number_stops hpart fun hc ↦ absurd (Option.some.inj hc) hpoint

/-- **A number is read up to the first character that cannot be drawn into it**, and whether it is
a floating-point one depends on its own characters alone. -/
theorem number_append_of_not_drawn {t : List Char} (ht : ∀ c ∈ t, isNumberPart c = true)
    (hexadecimal float : Bool) :
    ∃ g, ∀ rest : List Char, rest.head?.any drawnIntoNumber = false →
      number hexadecimal float (t ++ rest) = (t, rest, g) := by
  induction t generalizing float with
  | nil => exact ⟨float, fun rest h ↦ number_of_not_drawn h hexadecimal float⟩
  | cons c t ih =>
    obtain ⟨hc, htail⟩ := List.forall_mem_cons.1 ht
    by_cases he : ((c == 'e' || c == 'E') && !hexadecimal) = true
    · obtain ⟨g, hg⟩ := ih htail true
      refine ⟨g, fun rest h ↦ number_exponent hc he ?_ (hg rest h)⟩
      -- neither a part of the number nor what follows it is a sign
      cases t with
      | nil =>
        cases rest with
        | nil => rfl
        | cons d ds => exact (of_not_drawnIntoNumber (c := d) h).2.1
      | cons d ds => exact isSign_of_isNumberPart (htail d (by simp))
    · obtain ⟨g, hg⟩ := ih htail float
      exact ⟨g, fun rest h ↦ number_part hc he (hg rest h)⟩

/-- A number that is written without points and signs. -/
def numberKind (float : Bool) (t : List Char) : Kind :=
  if float then .float (String.ofList t) else .int (String.ofList t)

theorem text_numberKind (float : Bool) (t : List Char) :
    (numberKind float t).text.toList = t := by
  cases float <;> simp [numberKind, Kind.text]

/-- No digit starts a word. -/
theorem isIdentStart_of_isDigit {c : Char} (hc : c.isDigit = true) :
    Text.isIdentStart c = false := by
  have hrange : 0x30 ≤ c.toNat ∧ c.toNat ≤ 0x39 := by
    simp only [Char.isDigit, Bool.and_eq_true, decide_eq_true_eq] at hc
    exact ⟨hc.1, hc.2⟩
  have hletter : ∀ n < 0x41, Text.inTable Text.alphabeticTable n = false := by
    intro n hn
    rw [Text.alphabeticTable, Text.inTable, if_pos hn]
  have hscore : c ≠ '_' := by
    rintro rfl
    exact absurd hrange.2 (by decide)
  simp [Text.isIdentStart, Text.isAlphabetic, hletter c.toNat (by omega), hscore]

/-- **A digit and what can follow it in a number are read as one number.** -/
theorem exists_readsBefore_number {c : Char} {t : List Char} (hc : c.isDigit = true)
    (ht : ∀ d ∈ t, isNumberPart d = true) :
    ∃ float, ∀ next : Option Char, next.any drawnIntoNumber = false →
      (numberKind float (c :: t)).ReadsBefore next := by
  have hpart : isNumberPart c = true := by simp [isNumberPart, Char.isAlphanum, hc]
  have hall : ∀ d ∈ c :: t, isNumberPart d = true := by
    intro d hd
    rcases List.mem_cons.1 hd with rfl | hd
    · exact hpart
    · exact ht d hd
  have hident := isIdentStart_of_isDigit hc
  obtain ⟨g, hg⟩ := number_append_of_not_drawn hall ("0x".toList.isPrefixOf (c :: t)) false
  refine ⟨g, fun next hn rest hrest ↦ ⟨c, t ++ rest, by rw [text_numberKind]; rfl, ?_, ?_⟩⟩
  · refine gap_plain_cons ⟨?_, ?_, ?_⟩ fun hs ↦ ?_
    · rintro rfl
      exact absurd hc (by decide)
    · rintro rfl
      exact absurd hc (by decide)
    · rintro rfl
      exact absurd hc (by decide)
    · subst hs
      exact absurd hc (by decide)
  · -- the mark of a hexadecimal number is not completed by what follows the number
    have hhex : "0x".toList.isPrefixOf (c :: (t ++ rest)) = "0x".toList.isPrefixOf (c :: t) := by
      have hx : "0x".toList = ['0', 'x'] := by decide
      rw [hx]
      cases t with
      | nil =>
        cases rest with
        | nil => rfl
        | cons d ds =>
          have hd : d ≠ 'x' := by
            rintro rfl
            rw [← hrest, List.head?_cons] at hn
            exact absurd hn (by decide)
          simp [List.isPrefixOf, Ne.symm hd]
      | cons d ds => simp [List.isPrefixOf]
    have hnum := hg rest (by rw [hrest]; exact hn)
    rw [List.cons_append] at hnum
    rw [lexeme, if_neg (by simp [hident]), if_pos (by simp [startsNumber, hc]), hhex, hnum,
      text_numberKind]
    rfl

/-! ### The ends of tokens -/

/-- Whether the token is read back from its text where the given character follows. This covers
words, symbols and line breaks. -/
def Kind.endsBefore (k : Kind) (next : Option Char) : Bool :=
  match k with
  | .ident name =>
    Text.isIdentifier name.toList && (Keyword.ofText? name).isNone && !next.any Text.isIdentPart
  | .keyword _ => !next.any Text.isIdentPart
  | .newline => true
  | k => decide (k ∈ symbols) && next.all (fun d ↦ d ∉ k.continuations) && !k.clashesWith next

/-- The text of a keyword has the characters of an identifier. -/
theorem isIdentifier_keyword (word : Keyword) : Text.isIdentifier word.text.toList = true := by
  cases word <;> decide

/-- A line break is read back in front of anything. -/
theorem readsBefore_newline (next : Option Char) : Kind.newline.ReadsBefore next := by
  intro rest _
  refine ⟨'\n', rest, by simp [Kind.text], gap_plain_cons (by decide) fun h ↦ ?_, ?_⟩
  · exact absurd h (by decide)
  · rw [lexeme, if_neg (by decide), if_neg (by simp [startsNumber]), if_neg (by decide),
      if_pos rfl]
    simp [Kind.text]

theorem readsBefore_ident {name : String} (hi : Text.isIdentifier name.toList = true)
    (hk : Keyword.ofText? name = none) {next : Option Char}
    (hn : next.any Text.isIdentPart = false) : (Kind.ident name).ReadsBefore next := by
  rw [← wordKind_of_ofText?_eq_none hk]
  exact readsBefore_wordKind hi hn

theorem readsBefore_keyword (word : Keyword) {next : Option Char}
    (hn : next.any Text.isIdentPart = false) : (Kind.keyword word).ReadsBefore next := by
  rw [← wordKind_text]
  exact readsBefore_wordKind (isIdentifier_keyword word) hn

/-- **The test is sound.** -/
theorem readsBefore_of_endsBefore {k : Kind} {next : Option Char}
    (h : k.endsBefore next = true) : k.ReadsBefore next := by
  have hsymbol : ∀ k : Kind, (decide (k ∈ symbols) && next.all (fun d ↦ d ∉ k.continuations) &&
      !k.clashesWith next) = true → k.ReadsBefore next := by
    intro k h
    simp only [Bool.and_eq_true, decide_eq_true_eq, Option.all_eq_true_iff_get,
      Bool.not_eq_true'] at h
    refine readsBefore_symbol h.1.1 ?_ h.2
    rintro d rfl
    simpa using h.1.2
  cases k with
  | ident name =>
    simp only [Kind.endsBefore, Bool.and_eq_true, Option.isNone_iff_eq_none,
      Bool.not_eq_true'] at h
    exact readsBefore_ident h.1.1 h.1.2 h.2
  | keyword word => exact readsBefore_keyword word (by simpa [Kind.endsBefore] using h)
  | newline => exact readsBefore_newline next
  | _ => exact hsymbol _ h

/-- The characters that end every token before them. -/
def terminators : List Char := [' ', '\t', '\n', ',', ';', ':', '(', ')', '[', ']', '{', '}']

/-- **The token is read back in front of every terminator** and at the end of the text. -/
def Kind.Closed (k : Kind) : Prop :=
  ∀ next : Option Char, next.all (· ∈ terminators) = true → k.ReadsBefore next

theorem not_isIdentPart_of_terminator {next : Option Char}
    (h : next.all (· ∈ terminators) = true) : next.any Text.isIdentPart = false := by
  have hall : ∀ c ∈ terminators, Text.isIdentPart c = false := by decide
  cases next with
  | none => rfl
  | some c => exact hall c (by simpa using h)

/-- Identifiers are closed. -/
theorem closed_ident {name : String} (hi : Text.isIdentifier name.toList = true)
    (hk : Keyword.ofText? name = none) : (Kind.ident name).Closed :=
  fun _ h ↦ readsBefore_ident hi hk (not_isIdentPart_of_terminator h)

/-- Keywords are closed. -/
theorem closed_keyword (word : Keyword) : (Kind.keyword word).Closed :=
  fun _ h ↦ readsBefore_keyword word (not_isIdentPart_of_terminator h)

/-- Quotable strings are closed. -/
theorem closed_str {s : String} (h : isQuotable s.toList = true) :
    (Kind.str ("\"" ++ s ++ "\"")).Closed :=
  fun next _ ↦ readsBefore_str h next

/-- A line break is closed. -/
theorem closed_newline : Kind.newline.Closed := fun next _ ↦ readsBefore_newline next

/-- What continues a symbol stands in a symbol after its first character. -/
theorem mem_tail_of_mem_continuations {k : Kind} (hk : k ∈ symbols) {d : Char}
    (hd : d ∈ k.continuations) : ∃ s ∈ symbols, d ∈ s.text.toList.tail := by
  obtain ⟨s, hs, h⟩ := List.mem_filterMap.1 hd
  split at h
  · refine ⟨s, hs, ?_⟩
    have hmem := List.mem_of_mem_head? (Option.mem_def.2 h)
    rw [← List.drop_one]
    refine List.mem_of_mem_drop (i := k.text.toList.length - 1) ?_
    rw [List.drop_drop]
    have hpos := List.length_pos_iff.2 (text_ne_nil_of_mem_symbols hk)
    rwa [show 1 + (k.text.toList.length - 1) = k.text.toList.length by omega]
  · cases h

/-- **No terminator continues a symbol.** -/
theorem closed_symbol {k : Kind} (hk : k ∈ symbols) : k.Closed := by
  have htail : ∀ s ∈ symbols, ∀ c ∈ s.text.toList.tail, c ∉ terminators := by decide
  have hclash : ∀ c ∈ terminators, c.isDigit = false ∧ c ∉ ['/', '*'] := by decide
  intro next hn
  cases next with
  | none => exact readsBefore_symbol hk (by simp) (by simp [Kind.clashesWith])
  | some c =>
    have hc : c ∈ terminators := by simpa using hn
    refine readsBefore_symbol hk ?_ ?_
    · rintro d ⟨rfl⟩ hd
      obtain ⟨s, hs, hmem⟩ := mem_tail_of_mem_continuations hk hd
      exact htail s hs c hmem hc
    · obtain ⟨hdigit, hslash⟩ := hclash c hc
      rw [Kind.clashesWith, Option.any_some, Option.any_some, hdigit, decide_eq_false hslash,
        Bool.and_false, Bool.and_false, Bool.or_false]

/-- **Every symbol is read back in front of a word.** -/
theorem readsBefore_of_isIdentStart {k : Kind} (hk : k ∈ symbols) {c : Char}
    (hc : Text.isIdentStart c = true) : k.ReadsBefore (some c) := by
  have htail : ∀ s ∈ symbols, ∀ d ∈ s.text.toList.tail, Text.isIdentStart d = false := by
    decide
  have hslash : ∀ d ∈ ['/', '*'], Text.isIdentStart d = false := by decide
  refine readsBefore_symbol hk ?_ ?_
  · rintro d ⟨rfl⟩ hd
    obtain ⟨s, hs, hmem⟩ := mem_tail_of_mem_continuations hk hd
    rw [htail s hs c hmem] at hc
    cases hc
  · have hdigit : c.isDigit = false := by
      rw [← Bool.not_eq_true]
      intro hd
      rw [isIdentStart_of_isDigit hd] at hc
      cases hc
    have hmem : c ∉ ['/', '*'] := by
      intro hmem
      rw [hslash c hmem] at hc
      cases hc
    rw [Kind.clashesWith, Option.any_some, Option.any_some, hdigit, decide_eq_false hmem,
      Bool.and_false, Bool.and_false, Bool.or_false]

/-- Whether the token is a symbol that no character draws further. -/
def Kind.isLoose (k : Kind) : Bool :=
  decide (k ∈ symbols) && k.continuations.isEmpty && k != .dot && k != .op "/"

theorem mem_symbols_of_isLoose {k : Kind} (h : k.isLoose = true) : k ∈ symbols := by
  simp only [Kind.isLoose, Bool.and_eq_true, decide_eq_true_eq] at h
  exact h.1.1.1

/-- **A loose symbol is read back in front of anything.** -/
theorem readsBefore_of_isLoose {k : Kind} (h : k.isLoose = true) (next : Option Char) :
    k.ReadsBefore next := by
  simp only [Kind.isLoose, Bool.and_eq_true, decide_eq_true_eq, List.isEmpty_iff,
    bne_iff_ne] at h
  refine readsBefore_symbol h.1.1.1 (by simp [h.1.1.2]) ?_
  simp [Kind.clashesWith, h.1.2, h.2]

/-- A word, a symbol or a line break that passes the test anywhere is closed. -/
theorem closed_of_endsBefore {k : Kind} {next : Option Char} (h : k.endsBefore next = true) :
    k.Closed := by
  have hsymbol : ∀ k : Kind, (decide (k ∈ symbols) && next.all (fun d ↦ d ∉ k.continuations) &&
      !k.clashesWith next) = true → k.Closed := by
    intro k h
    simp only [Bool.and_eq_true, decide_eq_true_eq] at h
    exact closed_symbol h.1.1
  cases k with
  | ident name =>
    simp only [Kind.endsBefore, Bool.and_eq_true, Option.isNone_iff_eq_none] at h
    exact closed_ident h.1.1 h.1.2
  | keyword word => exact closed_keyword word
  | newline => exact closed_newline
  | _ => exact hsymbol _ h

end GoDecorator.Token
