import GoDecorator.Proofs.Token.Atoms

/-!
# Where literals end

A number goes on as far as it can, and a string or rune literal ends with its closing quote. Where
the text after a literal changes, the literal is read again under conditions that only concern the
first characters of the new text. A number must not be drawn further by them (`number_again`); a
literal with its closing quote is read in front of anything, and one without it only in front of a
line break (`quotedTail_again`).

A raw string literal is the exception: without its closing quote **it takes all that is left**, line
breaks included, so it is never read again in front of anything.

## Texts of literals

The parser keeps the text of a literal and not its token, so the token has to be found again from
the text. `literalKind` does that by its first character and, for a number, by whether the scanner
calls it a float; **a literal is the token of its text** (`Kind.ReadsAt.literalKind_text`).

`IsLiteral text` says that a text is that of a literal somewhere, and `Kind.ReadsAt.again` in front
of what it is read again: the conditions are those of `EndsLiteral`. Three of its consequences cover
what generated code writes after a literal: punctuation (`endsLiteral_of_closed`), the end of a line
(`endsLiteral_newline`) and the ellipsis of a spread argument (`endsLiteral_points`).

Points need the most care. A number takes a point unless another one follows, so `1...` is a number
and an ellipsis, but `1.` with an ellipsis after it is read in another way.
-/

namespace GoDecorator.Token

/-! ### Numbers -/

/-- A number goes on as far as it can. -/
theorem head?_rest_number (hexadecimal float : Bool) (cs : List Char) :
    (number hexadecimal float cs).2.1.head?.any isNumberPart = false := by
  fun_induction number hexadecimal float cs <;> simp_all [isNumberPart]

/-- **A number is read again in front of a text that does not draw it further.** A sign or a point
may follow it if one followed before. Otherwise there must be no sign, and a point only before
another one and not after a point of the number itself. -/
theorem number_again {hexadecimal float g : Bool} {t rest rest' : List Char}
    (h : number hexadecimal float (t ++ rest) = (t, rest, g))
    (hpart : rest'.head?.any isNumberPart = false)
    (hsign : rest'.head?.any isSign = true → rest.head?.any isSign = true)
    (hlast : rest'.head? = some '.' → t.getLast? = some '.' → rest.head? = some '.')
    (hpoint : rest'.head? = some '.' →
      rest'.tail.head? = some '.' ∨ rest.head? = some '.' ∧ rest.tail.head? ≠ some '.') :
    number hexadecimal float (t ++ rest') = (t, rest', g) := by
  have hlast_tail : ∀ {c : Char} {text : List Char},
      (rest'.head? = some '.' → (c :: text).getLast? = some '.' → rest.head? = some '.') →
      rest'.head? = some '.' → text.getLast? = some '.' → rest.head? = some '.' := by
    intro c text hl hr ht
    exact hl hr (by rw [List.getLast?_cons, ht]; rfl)
  generalize hcs : t ++ rest = cs at h
  fun_induction number hexadecimal float cs generalizing t with
  | case1 float =>
    simp only [Prod.mk.injEq] at h
    obtain ⟨rfl, rfl, rfl⟩ := h
    refine number_stops hpart fun hr ↦ .inr ?_
    simpa using hpoint hr
  | case2 float c hchar he =>
    simp only [Prod.mk.injEq] at h
    obtain ⟨rfl, rfl, rfl⟩ := h
    exact number_exponent hchar he (by simpa using hsign) (number_stops hpart fun _ ↦ .inl rfl)
  | case3 float c hchar he sign cs hs text rest₁ float₁ hrun ih =>
    simp only [Prod.mk.injEq] at h
    obtain ⟨rfl, rfl, rfl⟩ := h
    simp only [List.cons_append, List.cons.injEq, true_and] at hcs
    exact number_exponent_sign hchar he hs (ih (hlast_tail (hlast_tail hlast)) hcs hrun)
  | case4 float c hchar he sign cs hs text rest₁ float₁ hrun ih =>
    simp only [Prod.mk.injEq] at h
    obtain ⟨rfl, rfl, rfl⟩ := h
    rw [List.cons_append, List.cons.injEq] at hcs
    -- No sign comes to stand after the mark of the exponent.
    have hnosign : (text ++ rest').head?.any isSign = false := by
      have hbefore : (text ++ rest₁).head?.any isSign = false := by
        rw [hcs.2]
        simpa [isSign] using hs
      cases text with
      | nil => exact Bool.eq_false_iff.2 fun hr ↦ Bool.eq_false_iff.1 hbefore (hsign hr)
      | cons d text => exact hbefore
    exact number_exponent hchar he hnosign (ih (hlast_tail hlast) hcs.2 hrun)
  | case5 float c cs hchar he text rest₁ float₁ hrun ih =>
    simp only [Prod.mk.injEq] at h
    obtain ⟨rfl, rfl, rfl⟩ := h
    rw [List.cons_append, List.cons.injEq] at hcs
    exact number_part hchar he (ih (hlast_tail hlast) hcs.2 hrun)
  | case6 float c cs hchar hdrawn text rest₁ float₁ hrun ih =>
    simp only [Prod.mk.injEq] at h
    obtain ⟨rfl, rfl, rfl⟩ := h
    rw [List.cons_append, List.cons.injEq] at hcs
    simp only [Bool.and_eq_true, beq_iff_eq, Bool.not_eq_true', bne_iff_ne] at hdrawn
    obtain ⟨⟨rfl, rfl⟩, hone⟩ := hdrawn
    -- The point of the number is not followed by another one.
    have hone' : (text ++ rest').head? ≠ some '.' := by
      rw [← hcs.2] at hone
      cases text with
      | nil => exact fun hr ↦ hone (hlast hr rfl)
      | cons d text => exact hone
    exact number_point hone' (ih (hlast_tail hlast) hcs.2 hrun)
  | case7 float c cs hchar hdrawn =>
    simp only [Prod.mk.injEq] at h
    obtain ⟨rfl, rfl, rfl⟩ := h
    refine number_stops hpart fun hr ↦ ?_
    rcases hpoint hr with h | ⟨hc, hnext⟩
    · exact .inr h
    · obtain rfl : c = '.' := Option.some.inj hc
      left
      rw [← Bool.not_eq_false]
      intro hfloat
      refine hdrawn ?_
      rw [hfloat, beq_self_eq_true, Bool.not_false, Bool.true_and, Bool.true_and, bne_iff_ne]
      exact hnext

/-- A number that is read is not drawn further, so what follows it counts neither for whether a
number starts here nor for whether it is a hexadecimal one. -/
theorem startsNumber_again {c : Char} {t rest rest' : List Char} {hexadecimal g : Bool}
    (hn : startsNumber c (t ++ rest) = true)
    (hrun : number hexadecimal false (c :: t ++ rest) = (c :: t, rest, g))
    (hpart : rest'.head?.any isNumberPart = false) :
    startsNumber c (t ++ rest') = true ∧
      "0x".toList.isPrefixOf (c :: (t ++ rest')) = "0x".toList.isPrefixOf (c :: (t ++ rest)) := by
  have hstop := head?_rest_number hexadecimal false (c :: t ++ rest)
  rw [hrun] at hstop
  cases t with
  | cons d t => exact ⟨hn, by simp [List.isPrefixOf]⟩
  | nil =>
    have hnot {r : List Char} (hr : r.head?.any isNumberPart = false) :
        r.head?.any Char.isDigit = false ∧ "0x".toList.isPrefixOf (c :: r) = false := by
      cases r with
      | nil => exact ⟨rfl, by simp [List.isPrefixOf]⟩
      | cons d r =>
        rw [List.head?_cons, Option.any_some, isNumberPart, Bool.or_eq_false_iff] at hr
        refine ⟨?_, ?_⟩
        · rw [Char.isAlphanum, Bool.or_eq_false_iff] at hr
          simpa using hr.1.2
        · have hx : d ≠ 'x' := by
            rintro rfl
            exact absurd hr.1 (by decide)
          simp [List.isPrefixOf, Ne.symm hx]
    rw [List.nil_append, List.nil_append] at *
    rw [(hnot hstop).2, (hnot hpart).2]
    rw [startsNumber, (hnot hstop).1, Bool.and_false, Bool.or_false] at hn
    exact ⟨by simp [startsNumber, hn], rfl⟩

/-! ### Quotes -/

/-- The characters that a string or rune literal starts with. -/
def quotes : List Char := ['"', '\x60', '\'']

/-- Whether there is a closing quote after an opening one. A backslash takes the next character with
it, except in a raw literal. -/
def closes (quote : Char) : List Char → Bool
  | [] => false
  | c :: cs =>
    if c = quote then true
    else if c = '\\' ∧ quote ≠ '\x60' then
      match cs with
      | [] => false
      | _ :: cs' => closes quote cs'
    else closes quote cs

/-- **A literal with its closing quote is read again in front of anything.** Without it, it is read
again in front of a line break, unless it is a raw one. -/
theorem quotedTail_again {quote : Char} (hq : quote ≠ '\n') {t rest rest' : List Char}
    (h : quotedTail quote (t ++ rest) = some (t, rest))
    (hend : closes quote t = false → quote ≠ '\x60' ∧ rest'.head? = some '\n') :
    quotedTail quote (t ++ rest') = some (t, rest') := by
  have hopen : quote ≠ '\x60' ∧ rest'.head? = some '\n' →
      quotedTail quote ([] ++ rest') = some ([], rest') := by
    rintro ⟨hraw, hbreak⟩
    obtain ⟨r, rfl⟩ := List.head?_eq_some_iff.1 hbreak
    rw [List.nil_append, quotedTail.eq_def]
    simp [Ne.symm hq, hraw]
  generalize hcs : t ++ rest = cs at h
  fun_induction quotedTail quote cs generalizing t with
  | case1 =>
    obtain ⟨rfl, rfl⟩ := Prod.mk.inj (Option.some.inj h)
    exact hopen (hend rfl)
  | case2 c =>
    obtain ⟨rfl, rfl⟩ := Prod.mk.inj (Option.some.inj h)
    rw [List.singleton_append, quotedTail.eq_def]
    simp
  | case3 => cases h
  | case4 c hc hescape d cs ih =>
    obtain ⟨⟨text, rest₁⟩, hrun, h⟩ := Option.map_eq_some_iff.1 h
    simp only [Prod.mk.injEq] at h
    obtain ⟨rfl, rfl⟩ := h
    simp only [List.cons_append, List.cons.injEq, true_and] at hcs
    rw [closes, if_neg hc, if_pos hescape] at hend
    rw [List.cons_append, List.cons_append, quotedTail, if_neg hc, if_pos hescape,
      ih hend hcs hrun]
    rfl
  | case5 c cs hc hescape hbreak =>
    obtain ⟨rfl, rfl⟩ := Prod.mk.inj (Option.some.inj h)
    exact hopen (hend rfl)
  | case6 c cs hc hescape hbreak ih =>
    obtain ⟨⟨text, rest₁⟩, hrun, h⟩ := Option.map_eq_some_iff.1 h
    simp only [Prod.mk.injEq] at h
    obtain ⟨rfl, rfl⟩ := h
    rw [List.cons_append, List.cons.injEq] at hcs
    rw [closes.eq_def] at hend
    simp only [if_neg hc, if_neg hescape] at hend
    rw [List.cons_append, quotedTail.eq_def]
    simp only [if_neg hc, if_neg hescape, if_neg hbreak, ih hend hcs.2 hrun]
    rfl

/-- A literal without its closing quote ends with the text or, unless it is raw, with the line. -/
theorem rest_of_not_closes {quote : Char} {t rest : List Char}
    (h : quotedTail quote (t ++ rest) = some (t, rest)) (hopen : closes quote t = false) :
    rest = [] ∨ quote ≠ '\x60' ∧ rest.head? = some '\n' := by
  generalize hcs : t ++ rest = cs at h
  fun_induction quotedTail quote cs generalizing t with
  | case1 =>
    obtain ⟨rfl, rfl⟩ := Prod.mk.inj (Option.some.inj h)
    exact .inl rfl
  | case2 c =>
    obtain ⟨rfl, rfl⟩ := Prod.mk.inj (Option.some.inj h)
    simp [closes] at hopen
  | case3 => cases h
  | case4 c hc hescape d cs ih =>
    obtain ⟨⟨text, rest₁⟩, hrun, h⟩ := Option.map_eq_some_iff.1 h
    simp only [Prod.mk.injEq] at h
    obtain ⟨rfl, rfl⟩ := h
    simp only [List.cons_append, List.cons.injEq, true_and] at hcs
    rw [closes, if_neg hc, if_pos hescape] at hopen
    exact ih hopen hcs hrun
  | case5 c cs hc hescape hbreak =>
    obtain ⟨rfl, rfl⟩ := Prod.mk.inj (Option.some.inj h)
    exact .inr ⟨hbreak.2, congrArg some hbreak.1⟩
  | case6 c cs hc hescape hbreak ih =>
    obtain ⟨⟨text, rest₁⟩, hrun, h⟩ := Option.map_eq_some_iff.1 h
    simp only [Prod.mk.injEq] at h
    obtain ⟨rfl, rfl⟩ := h
    rw [List.cons_append, List.cons.injEq] at hcs
    rw [closes.eq_def] at hopen
    simp only [if_neg hc, if_neg hescape] at hopen
    exact ih hopen hcs.2 hrun

/-! ### Literals as tokens -/

/-- Whether the token is a literal. -/
def Kind.isLiteral : Kind → Bool
  | .int _ | .float _ | .str _ | .rune _ => true
  | _ => false

/-- Whether the text of a literal starts with a quote. Otherwise it is that of a number. -/
def isQuoted (text : String) : Bool := text.toList.head?.any (· ∈ quotes)

/-- Whether the text is that of a string or rune literal without its closing quote. -/
def isUnclosed (text : String) : Bool :=
  match text.toList with
  | [] => false
  | quote :: tail => decide (quote ∈ quotes) && !closes quote tail

/-- Whether the text is that of a raw string literal. -/
def isRaw (text : String) : Bool := text.toList.head? == some '\x60'

/-- The token that the text of a literal is read as. -/
def literalKind (text : String) : Kind :=
  match text.toList with
  | [] => .int text
  | c :: cs =>
    if c = '\'' then .rune text
    else if c ∈ quotes then .str text
    else if (number ("0x".toList.isPrefixOf (c :: cs)) false (c :: cs)).2.2 then .float text
    else .int text

@[simp] theorem text_literalKind (text : String) : (literalKind text).text = text := by
  unfold literalKind
  split
  · rfl
  · split
    · rfl
    · split
      · rfl
      · split <;> rfl

theorem isLiteral_literalKind (text : String) : (literalKind text).isLiteral = true := by
  unfold literalKind
  split
  · rfl
  · split
    · rfl
    · split
      · rfl
      · split <;> rfl

/-- The text is that of a literal in front of some text. -/
def IsLiteral (text : String) : Prop := ∃ rest, (literalKind text).ReadsAt rest

/-- The literal is not drawn further by the text after it. -/
structure EndsLiteral (text : String) (rest : List Char) : Prop where
  /-- A literal without its closing quote is not raw, and the line ends. -/
  quoted : isUnclosed text = true → isRaw text = false ∧ rest.head? = some '\n'
  /-- After a number there is neither a part of one nor a sign. -/
  number : isQuoted text = false →
    rest.head?.any isNumberPart = false ∧ rest.head?.any isSign = false
  /-- A point after a number has another one after it, and no point stands before it. -/
  point : isQuoted text = false → rest.head? = some '.' →
    rest.tail.head? = some '.' ∧ text.toList.getLast? ≠ some '.'

/-- Where no gap starts, there is neither a blank nor the start of a comment. -/
theorem of_gap_plain_cons {c : Char} {cs : List Char} (h : gap .plain (c :: cs) = ([], c :: cs)) :
    (c ≠ ' ' ∧ c ≠ '\t' ∧ c ≠ '\r') ∧
      (c = '/' → cs.head? ≠ some '/' ∧ cs.head? ≠ some '*') := by
  refine ⟨⟨?_, ?_, ?_⟩, ?_⟩
  · rintro rfl
    simp [gap] at h
  · rintro rfl
    simp [gap] at h
  · rintro rfl
    simp [gap] at h
  · rintro rfl
    cases cs with
    | nil => simp
    | cons d cs =>
      refine ⟨?_, ?_⟩
      · rintro ⟨rfl⟩
        simp [gap] at h
      · rintro ⟨rfl⟩
        simp [gap] at h

/-- No word is a literal. -/
theorem not_isLiteral_wordKind (name : String) : (wordKind name).isLiteral = false := by
  unfold wordKind
  cases Keyword.ofText? name <;> rfl

/-- No symbol is a literal. -/
theorem not_isLiteral_symbol (c : Char) (cs : List Char) :
    (symbol c cs).kind.isLiteral = false := by
  have hall : ∀ k ∈ symbols, k.isLiteral = false := by decide
  unfold symbol
  split
  next k hk => exact hall k (List.mem_of_find?_eq_some hk)
  next => rfl

/-- How a literal is read: as a number, or up to a quote. -/
theorem lexeme_literal {c : Char} {t rest : List Char} {k : Kind} (hk : k.isLiteral = true)
    (h : lexeme c (t ++ rest) = some ⟨k, c :: t, rest⟩) :
    Text.isIdentStart c = false ∧
      ((startsNumber c (t ++ rest) = true ∧ ∃ float,
          number ("0x".toList.isPrefixOf (c :: (t ++ rest))) false (c :: t ++ rest) =
            (c :: t, rest, float) ∧ k = numberKind float (c :: t)) ∨
        (c ∈ quotes ∧ quotedTail c (t ++ rest) = some (t, rest) ∧
          k = if c = '\'' then .rune (String.ofList (c :: t))
            else .str (String.ofList (c :: t)))) := by
  rw [lexeme] at h
  split at h
  next hc =>
    have hkind := congrArg Lexeme.kind (Option.some.inj h)
    obtain rfl : wordKind (String.ofList (c :: (t ++ rest).takeWhile Text.isIdentPart)) = k := hkind
    rw [not_isLiteral_wordKind] at hk
    cases hk
  next hc =>
  refine ⟨Bool.eq_false_iff.2 hc, ?_⟩
  split at h
  next hn =>
    simp only [Option.some.injEq, Lexeme.mk.injEq] at h
    obtain ⟨rfl, htext, hrest⟩ := h
    refine .inl ⟨hn, _, Prod.ext htext (Prod.ext hrest rfl), ?_⟩
    rw [htext]
    rfl
  next hn =>
  split at h
  next hquote =>
    obtain ⟨⟨text, rest₁⟩, hrun, h⟩ := Option.map_eq_some_iff.1 h
    simp only [Lexeme.mk.injEq, List.cons.injEq, true_and] at h
    obtain ⟨rfl, rfl, rfl⟩ := h
    exact .inr ⟨by simpa [quotes] using hquote, hrun, rfl⟩
  next hquote =>
  split at h
  next hbreak =>
    have hkind := congrArg Lexeme.kind (Option.some.inj h)
    obtain rfl : Kind.newline = k := hkind
    cases hk
  next hbreak =>
    have hkind := congrArg Lexeme.kind (Option.some.inj h)
    obtain rfl : (symbol c (t ++ rest)).kind = k := hkind
    rw [not_isLiteral_symbol] at hk
    cases hk

/-- No quote starts a number. -/
theorem not_startsNumber_of_mem_quotes {c : Char} (hc : c ∈ quotes) (cs : List Char) :
    startsNumber c cs = false := by
  have hquotes : ∀ q ∈ quotes, q.isDigit = false ∧ q ≠ '.' := by decide
  simp [startsNumber, hquotes c hc]

/-- A token that is read starts with a character of its own. -/
theorem Kind.ReadsAt.exists_lexeme {k : Kind} {rest : List Char} (h : k.ReadsAt rest) :
    ∃ c t, k.text.toList = c :: t ∧ gap .plain (c :: (t ++ rest)) = ([], c :: (t ++ rest)) ∧
      lexeme c (t ++ rest) = some ⟨k, c :: t, rest⟩ := by
  obtain ⟨c, t, htext⟩ := List.exists_cons_of_ne_nil (text_ne_nil_of_readsAt h)
  obtain ⟨_, _, hcs, hgap, hlex⟩ := h
  rw [htext, List.cons_append] at hcs
  obtain ⟨rfl, rfl⟩ := List.cons.inj hcs
  rw [htext] at hlex
  exact ⟨c, t, htext, hgap, hlex⟩

/-- What starts a number or a literal starts no gap. -/
theorem gap_plain_of_startsLiteral {c : Char} {cs : List Char}
    (h : startsNumber c cs = true ∨ c ∈ quotes) : gap .plain (c :: cs) = ([], c :: cs) := by
  have hnone : ∀ d ∈ [' ', '\t', '\r', '/'], d.isDigit = false ∧ d ≠ '.' ∧ d ∉ quotes := by decide
  have hne : ∀ d ∈ [' ', '\t', '\r', '/'], c ≠ d := by
    rintro d hd rfl
    obtain ⟨hdigit, hpoint, hquote⟩ := hnone c hd
    rcases h with h | h
    · simp [startsNumber, hdigit, hpoint] at h
    · exact hquote h
  refine gap_plain_cons ⟨hne _ (by simp), hne _ (by simp), hne _ (by simp)⟩ fun hc ↦ ?_
  exact absurd hc (hne _ (by simp))

/-- **A literal is the token of its text.** -/
theorem Kind.ReadsAt.literalKind_text {k : Kind} (hk : k.isLiteral = true) {rest : List Char}
    (h : k.ReadsAt rest) : literalKind k.text = k := by
  obtain ⟨c, t, htext, -, hlex⟩ := h.exists_lexeme
  have hword : String.ofList (c :: t) = k.text := by rw [← htext, String.ofList_toList]
  rw [literalKind, htext]
  dsimp only
  obtain ⟨-, ⟨hn, float, hrun, hkind⟩ | ⟨hquote, -, hkind⟩⟩ := lexeme_literal hk hlex
  · have hc : c ∉ quotes := by
      intro hc
      rw [not_startsNumber_of_mem_quotes hc] at hn
      cases hn
    have hrune : c ≠ '\'' := by
      rintro rfl
      exact hc (by decide)
    -- the number is read alike where nothing follows it
    obtain ⟨-, hhex⟩ := @startsNumber_again c t rest [] _ _ hn hrun rfl
    have hagain := @number_again _ _ _ _ _ [] hrun rfl (by simp) (by simp) (by simp)
    rw [List.append_nil] at hhex hagain
    rw [if_neg hrune, if_neg hc, hhex, hagain, ← hword]
    exact hkind.symm
  · rw [if_pos hquote, ← hword]
    exact hkind.symm

/-- What a literal starts with. -/
theorem Kind.ReadsAt.head_literal {k : Kind} (hk : k.isLiteral = true) {rest : List Char}
    (h : k.ReadsAt rest) :
    ∃ c, k.text.toList.head? = some c ∧ (c.isDigit = true ∨ c = '.' ∨ c ∈ quotes) := by
  obtain ⟨c, t, htext, -, hlex⟩ := h.exists_lexeme
  refine ⟨c, by rw [htext]; rfl, ?_⟩
  obtain ⟨-, ⟨hn, -⟩ | ⟨hquote, -⟩⟩ := lexeme_literal hk hlex
  · rw [startsNumber, Bool.or_eq_true, Bool.and_eq_true, beq_iff_eq] at hn
    exact hn.imp_right fun h ↦ .inl h.1
  · exact .inr (.inr hquote)

/-- **After a literal without its closing quote the line ends**, or the whole text. -/
theorem Kind.ReadsAt.rest_of_isUnclosed {k : Kind} (hk : k.isLiteral = true) {rest : List Char}
    (h : k.ReadsAt rest) (hopen : isUnclosed k.text = true) :
    rest = [] ∨ rest.head? = some '\n' := by
  obtain ⟨c, t, htext, -, hlex⟩ := h.exists_lexeme
  rw [isUnclosed, htext, Bool.and_eq_true, decide_eq_true_eq, Bool.not_eq_true'] at hopen
  obtain ⟨-, ⟨hn, -⟩ | ⟨-, hrun, -⟩⟩ := lexeme_literal hk hlex
  · rw [not_startsNumber_of_mem_quotes hopen.1] at hn
    cases hn
  · exact (rest_of_not_closes hrun hopen.2).imp_right And.right

/-- **A literal is read again in front of a text that does not draw it further.** -/
theorem Kind.ReadsAt.again {k : Kind} (hk : k.isLiteral = true) {rest rest' : List Char}
    (h : k.ReadsAt rest) (hend : EndsLiteral k.text rest') : k.ReadsAt rest' := by
  obtain ⟨c, t, htext, -, hlex⟩ := h.exists_lexeme
  obtain ⟨hc, ⟨hn, float, hrun, hkind⟩ | ⟨hquote, hrun, hkind⟩⟩ := lexeme_literal hk hlex
  · have hquoted : isQuoted k.text = false := by
      rw [isQuoted, htext, List.head?_cons, Option.any_some, decide_eq_false_iff_not]
      intro hq
      rw [not_startsNumber_of_mem_quotes hq] at hn
      cases hn
    obtain ⟨hpart, hsign⟩ := hend.number hquoted
    obtain ⟨hstart, hhex⟩ := startsNumber_again hn hrun hpart
    have hagain := number_again hrun hpart (by simp [hsign])
      (fun hr hl ↦ absurd (htext ▸ hl) (hend.point hquoted hr).2)
      (fun hr ↦ .inl (hend.point hquoted hr).1)
    refine ⟨c, t ++ rest', by rw [htext]; rfl, gap_plain_of_startsLiteral (.inl hstart), ?_⟩
    rw [List.cons_append] at hagain
    rw [lexeme, if_neg (by simp [hc]), if_pos hstart, hhex, hagain, htext, hkind]
    rfl
  · have hbreak : c ≠ '\n' := by
      rintro rfl
      exact absurd hquote (by decide)
    have hn : startsNumber c (t ++ rest') = false := not_startsNumber_of_mem_quotes hquote _
    have hagain := @quotedTail_again c hbreak t rest rest' hrun fun hopen ↦ by
      obtain ⟨hraw, hline⟩ := hend.quoted (by simp [isUnclosed, htext, hquote, hopen])
      refine ⟨?_, hline⟩
      rintro rfl
      simp [isRaw, htext] at hraw
    refine ⟨c, t ++ rest', by rw [htext]; rfl, gap_plain_of_startsLiteral (.inr hquote), ?_⟩
    rw [lexeme, if_neg (by simp [hc]), if_neg (by simp [hn]),
      if_pos (by simpa [quotes] using hquote), hagain, htext, hkind]
    rfl

/-! ### Texts that end a literal -/

/-- A literal with its closing quote, or a number, ends before a character that no number draws in.
-/
theorem endsLiteral_of_closed {text : String} (h : isUnclosed text = false) {c : Char}
    (hc : drawnIntoNumber c = false) (rest : List Char) : EndsLiteral text (c :: rest) := by
  simp only [drawnIntoNumber, Bool.or_eq_false_iff, decide_eq_false_iff_not, List.mem_cons,
    List.not_mem_nil, or_false, not_or] at hc
  refine ⟨fun hopen ↦ ?_, fun _ ↦ ⟨hc.1, ?_⟩, fun _ hhead ↦ ?_⟩
  · rw [h] at hopen
    cases hopen
  · simp [isSign, hc.2.2]
  · exact absurd (Option.some.inj hhead) hc.2.1

/-- Every literal ends with the line, but for a raw one without its closing quote. -/
theorem endsLiteral_newline {text : String} (h : isRaw text = true → isUnclosed text = false)
    (rest : List Char) : EndsLiteral text ('\n' :: rest) := by
  have hbreak : isNumberPart '\n' = false ∧ isSign '\n' = false := by decide
  refine ⟨fun hopen ↦ ⟨?_, rfl⟩, fun _ ↦ hbreak, fun _ hhead ↦ ?_⟩
  · rw [← Bool.not_eq_true]
    intro hraw
    rw [h hraw] at hopen
    cases hopen
  · exact absurd (Option.some.inj hhead) (by decide)

/-- A literal with its closing quote, or a number without a point at its end, ends before two
points.
-/
theorem endsLiteral_points {text : String} (h : isUnclosed text = false)
    (hpoint : isQuoted text = false → text.toList.getLast? ≠ some '.') (rest : List Char) :
    EndsLiteral text ('.' :: '.' :: rest) := by
  have hpoints : isNumberPart '.' = false ∧ isSign '.' = false := by decide
  refine ⟨fun hopen ↦ ?_, fun _ ↦ hpoints, fun hq _ ↦ ⟨rfl, hpoint hq⟩⟩
  rw [h] at hopen
  cases hopen

end GoDecorator.Token
