import GoDecorator.Proofs.Token.Exactness
import GoDecorator.Proofs.Token.Literals

/-!
# Tokens that are set apart

When tokens are printed again, those that touched before still touch, and between all others there
is a blank or a line break. So the text after a token is the same as before up to some place, and
from there on it **fades**: a blank or a line break stands where something else stood before
(`Fades`).

**A token that was read in front of a text is read in front of every text that this one fades into**
(`Kind.ReadsAt.fade`). The lexer looks ahead by more than one character, after a number for two
points in a row and after a point for an ellipsis, but never past a blank. Two details matter. A
literal without its closing quote ends at a line break, so a line break must not become a blank. And
a point after a number belongs to the number unless another point follows, so what fades must not be
a point.
-/

namespace GoDecorator.Token

/-! ### Fading -/

/-- The second text is the first one up to a place where it has a blank or a line break instead. -/
inductive Fades : List Char → List Char → Prop where
  | here {x y : Char} {r r' : List Char} (hpoint : x ≠ '.') (hy : y = ' ' ∨ y = '\n')
    (hbreak : x = '\n' → y = '\n') : Fades (x :: r) (y :: r')
  | cons {c : Char} {r r' : List Char} (h : Fades r r') : Fades (c :: r) (c :: r')

namespace Fades

variable {r r' : List Char}

theorem append (h : Fades r r') (t : List Char) : Fades (t ++ r) (t ++ r') := by
  induction t with
  | nil => exact h
  | cons c t ih => exact ih.cons

theorem ne_nil (h : Fades r r') : r ≠ [] ∧ r' ≠ [] := by
  cases h <;> simp

/-- The texts start with the same character, or the second one starts with a blank. -/
theorem head? (h : Fades r r') :
    r'.head? = r.head? ∨ r'.head? = some ' ' ∨ r'.head? = some '\n' := by
  cases h with
  | here _ hy _ => exact .inr (by simpa using hy)
  | cons _ => exact .inl rfl

/-- What the first character of the one text is not, that of the other is not, unless it holds of
blanks. -/
theorem any_head? (h : Fades r r') {p : Char → Bool} (hp : p ' ' = false ∧ p '\n' = false)
    (hr : r.head?.any p = false) : r'.head?.any p = false := by
  rcases h.head? with heq | heq | heq <;> simp [heq, hr, hp]

/-- A point is not taken away. -/
theorem head?_point (h : Fades r r') (hr : r.head? = some '.') : r'.head? = some '.' := by
  cases h with
  | here hpoint _ _ => exact absurd (Option.some.inj hr) hpoint
  | cons _ => exact hr

/-- A text without blanks and line breaks that the second text starts with starts the first one. -/
theorem isPrefix (h : Fades r r') {s : List Char} (hs : ' ' ∉ s ∧ '\n' ∉ s) (hp : s <+: r') :
    s <+: r := by
  induction h generalizing s with
  | here _ hy _ =>
    cases s with
    | nil => exact List.nil_prefix
    | cons d s =>
      obtain rfl := (List.cons_prefix_cons.1 hp).1
      rcases hy with rfl | rfl
      · exact absurd (List.mem_cons_self ..) hs.1
      · exact absurd (List.mem_cons_self ..) hs.2
  | cons _ ih =>
    cases s with
    | nil => exact List.nil_prefix
    | cons d s =>
      obtain ⟨rfl, htail⟩ := List.cons_prefix_cons.1 hp
      simp only [List.mem_cons, not_or] at hs
      exact List.cons_prefix_cons.2 ⟨rfl, ih ⟨hs.1.2, hs.2.2⟩ htail⟩

end Fades

section Lexemes

variable {rest rest' : List Char} (hf : Fades rest rest')

include hf

/-! ### Numbers -/

/-- **A number is read again.** -/
theorem number_fade {hexadecimal float g : Bool} {t : List Char}
    (h : number hexadecimal float (t ++ rest) = (t, rest, g)) :
    number hexadecimal float (t ++ rest') = (t, rest', g) := by
  have hstop := head?_rest_number hexadecimal float (t ++ rest)
  rw [h] at hstop
  refine number_again h (hf.any_head? (by decide) hstop) (fun hsign ↦ ?_) (fun hpoint _ ↦ ?_)
    fun hpoint ↦ ?_
  · rw [← Bool.not_eq_false]
    intro hnot
    rw [hf.any_head? (by decide) hnot] at hsign
    cases hsign
  · cases hf with
    | here _ hy _ => rcases hy with rfl | rfl <;> cases hpoint
    | cons _ => exact hpoint
  · cases hf with
    | here _ hy _ => rcases hy with rfl | rfl <;> cases hpoint
    | @cons _ r _ hf =>
      by_cases hr : r.head? = some '.'
      · exact .inl (hf.head?_point hr)
      · exact .inr ⟨hpoint, hr⟩

theorem isPrefixOf_of_fades {s cs : List Char} (hs : ' ' ∉ s ∧ '\n' ∉ s)
    (h : s.isPrefixOf (cs ++ rest') = true) : s.isPrefixOf (cs ++ rest) = true := by
  rw [List.isPrefixOf_iff_prefix] at h ⊢
  exact (hf.append cs).isPrefix hs h

/-! ### Literals -/

/-- **A literal is read again**, also one without its closing quote. -/
theorem quotedTail_fade {quote : Char} (hq : quote ≠ '\n') {t : List Char}
    (h : quotedTail quote (t ++ rest) = some (t, rest)) :
    quotedTail quote (t ++ rest') = some (t, rest') := by
  refine quotedTail_again hq h fun hopen ↦ ?_
  obtain hnil | ⟨hraw, hbreak⟩ := rest_of_not_closes h hopen
  · exact absurd hnil hf.ne_nil.1
  · refine ⟨hraw, ?_⟩
    -- The literal ends at a line break, which stays one.
    cases hf with
    | here _ _ hkept =>
      obtain rfl := Option.some.inj hbreak
      rw [hkept rfl]
      rfl
    | cons _ => exact hbreak

/-! ### Symbols -/

/-- **A symbol is read again**, and so is a character that starts no token. -/
theorem symbol_fade {k : Kind} {c : Char} {t : List Char}
    (h : symbol c (t ++ rest) = ⟨k, c :: t, rest⟩) :
    symbol c (t ++ rest') = ⟨k, c :: t, rest'⟩ := by
  have hblank : ∀ s ∈ symbols, ' ' ∉ s.text.toList ∧ '\n' ∉ s.text.toList := by decide
  have hstarts : ∀ s ∈ symbols, s.text.toList.isPrefixOf (c :: (t ++ rest')) = true →
      s.text.toList.isPrefixOf (c :: (t ++ rest)) = true := fun s hs ↦
    @isPrefixOf_of_fades _ _ hf _ (c :: t) (hblank s hs)
  unfold symbol at h
  split at h
  next s hfind =>
    simp only [Lexeme.mk.injEq] at h
    obtain ⟨rfl, htext, -⟩ := h
    -- No symbol that comes before this one starts the new text.
    obtain ⟨-, as, bs, hsplit, hbefore⟩ := List.find?_eq_some_iff_append.1 hfind
    have hagain :
        symbols.find? (fun s ↦ s.text.toList.isPrefixOf (c :: (t ++ rest'))) = some s := by
      refine List.find?_eq_some_iff_append.2 ⟨?_, as, bs, hsplit, fun a ha ↦ ?_⟩
      · rw [htext, List.isPrefixOf_iff_prefix]
        exact List.prefix_append (c :: t) rest'
      · have hnot := hbefore a ha
        rw [Bool.not_eq_true'] at hnot ⊢
        rw [← Bool.not_eq_true] at hnot ⊢
        exact fun hp ↦ hnot (hstarts a (by rw [hsplit]; simp [ha]) hp)
    rw [symbol, hagain]
    simp only [htext, Lexeme.mk.injEq, true_and]
    exact @List.drop_left _ (c :: t) rest'
  next hfind =>
    simp only [Lexeme.mk.injEq, List.cons.injEq, true_and] at h
    obtain ⟨rfl, rfl, -⟩ := h
    have hagain : symbols.find? (fun s ↦ s.text.toList.isPrefixOf (c :: ([] ++ rest'))) = none :=
      List.find?_eq_none.2 fun s hs hp ↦ List.find?_eq_none.1 hfind s hs (hstarts s hs hp)
    rw [symbol, hagain]
    rfl

/-! ### Tokens -/

/-- **A word is read again.** -/
theorem word_fade {k : Kind} {c : Char} {t : List Char} (hc : Text.isIdentStart c = true)
    (h : word c (t ++ rest) = ⟨k, c :: t, rest⟩) :
    lexeme c (t ++ rest') = some ⟨k, c :: t, rest'⟩ := by
  simp only [word, Lexeme.mk.injEq, List.cons.injEq, true_and] at h
  obtain ⟨rfl, htake, hdrop⟩ := h
  have hpart : ∀ d ∈ t, Text.isIdentPart d = true := by
    intro d hd
    rw [← htake] at hd
    exact List.all_eq_true.1 List.all_takeWhile d hd
  have hend : rest.head?.any Text.isIdentPart = false := by
    have hhead := head?_dropWhile_any Text.isIdentPart (t ++ rest)
    rwa [hdrop] at hhead
  rw [lexeme_word hc hpart (hf.any_head? (by decide) hend), htake]
  rfl

/-- What starts a number starts one again, and it is still a hexadecimal one or not. -/
theorem startsNumber_fade {c : Char} {t : List Char} {g : Bool}
    (hn : startsNumber c (t ++ rest) = true)
    (hrun : number ("0x".toList.isPrefixOf (c :: (t ++ rest))) false (c :: t ++ rest) =
      (c :: t, rest, g)) :
    startsNumber c (t ++ rest') = true ∧
      number ("0x".toList.isPrefixOf (c :: (t ++ rest'))) false (c :: (t ++ rest')) =
        (c :: t, rest', g) := by
  have hstop := head?_rest_number ("0x".toList.isPrefixOf (c :: (t ++ rest))) false
    (c :: t ++ rest)
  rw [hrun] at hstop
  obtain ⟨hstart, hhex⟩ := startsNumber_again hn hrun (hf.any_head? (by decide) hstop)
  rw [hhex]
  exact ⟨hstart, number_fade hf hrun⟩

/-- **A lexeme is read again.** -/
theorem lexeme_fade {k : Kind} {c : Char} {t : List Char}
    (h : lexeme c (t ++ rest) = some ⟨k, c :: t, rest⟩) :
    lexeme c (t ++ rest') = some ⟨k, c :: t, rest'⟩ := by
  rw [lexeme] at h
  split at h
  next hc => exact word_fade hf hc (Option.some.inj h)
  next hc =>
  split at h
  next hn =>
    simp only [Option.some.injEq, Lexeme.mk.injEq] at h
    obtain ⟨rfl, htext, hrest⟩ := h
    obtain ⟨hstart, hagain⟩ := startsNumber_fade hf hn (Prod.ext htext (Prod.ext hrest rfl))
    rw [lexeme, if_neg hc, if_pos hstart, hagain, htext]
    rfl
  next hn =>
  have hn' : ¬ startsNumber c (t ++ rest') = true := by
    rw [Bool.not_eq_true, startsNumber, Bool.or_eq_false_iff, Bool.and_eq_false_iff] at hn ⊢
    exact ⟨hn.1, hn.2.imp_right ((hf.append t).any_head? (by decide))⟩
  split at h
  next hquote =>
    obtain ⟨⟨text, rest₁⟩, hrun, h⟩ := Option.map_eq_some_iff.1 h
    simp only [Lexeme.mk.injEq, List.cons.injEq, true_and] at h
    obtain ⟨rfl, rfl, rfl⟩ := h
    have hagain := quotedTail_fade hf (by rcases hquote with rfl | rfl | rfl <;> decide) hrun
    rw [lexeme, if_neg hc, if_neg hn', if_pos hquote, hagain]
    rfl
  next hquote =>
  split at h
  next hbreak =>
    simp only [Option.some.injEq, Lexeme.mk.injEq, List.cons.injEq, true_and] at h
    obtain ⟨rfl, rfl, -⟩ := h
    rw [lexeme, if_neg hc, if_neg hn', if_neg hquote, if_pos hbreak]
    rfl
  next hbreak =>
    rw [lexeme, if_neg hc, if_neg hn', if_neg hquote, if_neg hbreak,
      symbol_fade hf (Option.some.inj h)]

end Lexemes

/-- **A token that was read in front of a text is read in front of every text that this one fades
into.** -/
theorem Kind.ReadsAt.fade {k : Kind} {rest rest' : List Char} (h : k.ReadsAt rest)
    (hf : Fades rest rest') : k.ReadsAt rest' := by
  obtain ⟨c, t, htext, hgap, hlex⟩ := h.exists_lexeme
  refine ⟨c, t ++ rest', by rw [htext]; rfl, ?_, by rw [htext]; exact lexeme_fade hf hlex⟩
  obtain ⟨hblank, hslash⟩ := of_gap_plain_cons hgap
  refine gap_plain_cons hblank fun hc ↦ ?_
  have hopen : (t ++ rest).head?.any (fun d ↦ d == '/' || d == '*') = false := by
    have hnot := hslash hc
    generalize (t ++ rest).head? = next at hnot
    cases next with
    | none => rfl
    | some d => simpa using hnot
  have hopen' := (hf.append t).any_head? (by decide) hopen
  generalize (t ++ rest').head? = next at hopen'
  cases next with
  | none => simp
  | some d => simpa using hopen'

/-! ### Tokens that were read -/

/-- No gap starts where one ends. -/
theorem gap_plain_gap (mode : GapMode) (cs : List Char) :
    gap .plain (gap mode cs).2 = ([], (gap mode cs).2) := by
  fun_induction gap mode cs with
  | case1 => simp [gap]
  | case2 cs g rest hgap ih => simpa [hgap] using ih
  | case3 cs g rest hgap ih => simpa [hgap] using ih
  | case4 c cs _ _ hc g rest hgap ih => simpa [hgap] using ih
  | case5 c cs hline hblock hc =>
    refine gap_plain_cons (by simpa using hc) fun hslash ↦ ⟨fun hhead ↦ ?_, fun hhead ↦ ?_⟩
    · obtain ⟨cs', rfl⟩ := List.head?_eq_some_iff.1 hhead
      exact hline cs' hslash rfl
    · obtain ⟨cs', rfl⟩ := List.head?_eq_some_iff.1 hhead
      exact hblock cs' hslash rfl
  | case6 cs => simp [gap]
  | case7 c cs hc g rest hgap ih => simpa [hgap] using ih
  | case8 cs g rest hgap ih => simpa [hgap] using ih
  | case9 c cs hnot g rest hgap ih => simpa [hgap] using ih

/-- What a gap can start with. -/
theorem IsGap.mem_head? {g rest : List Char} (h : IsGap g rest) {x : Char} (hx : x ∈ g.head?) :
    x ∈ [' ', '\t', '\r', '/'] := by
  cases h with
  | nil => cases hx
  | blank hc hg =>
    obtain rfl := Option.some.inj hx
    rcases hc with rfl | rfl | rfl <;> simp
  | line | block | endless =>
    obtain rfl := Option.some.inj hx
    simp

/-- **A token of a text is read in front of what follows it there**, after a gap. -/
theorem exists_of_scanFrom_cons {cs : List Char} {offset line : Nat} {t : Token} {ts : List Token}
    (h : scanFrom offset line cs = some (t :: ts)) (ht : t.kind ≠ .eof) :
    ∃ skipped rest line', cs = skipped ++ (t.kind.text.toList ++ rest) ∧
      (∀ x ∈ skipped.head?, x ∈ [' ', '\t', '\r', '/']) ∧ t.kind.ReadsAt rest ∧
      t.span.start = offset + skipped.length ∧ scanFrom t.span.stop line' rest = some ts := by
  have happend := gap_append .plain cs
  have hgap := isGap_gap cs
  have hagain := gap_plain_gap .plain cs
  rw [scanFrom_eq] at h
  generalize gap .plain cs = g at happend hgap hagain h
  obtain ⟨skipped, rest⟩ := g
  cases rest with
  | nil =>
    obtain ⟨rfl, -⟩ := List.cons.inj (Option.some.inj h)
    exact absurd rfl ht
  | cons c cs' =>
    obtain ⟨lx, hlx, hscan⟩ := Option.bind_eq_some_iff.1 h
    obtain ⟨ts', hts', hcons⟩ := Option.map_eq_some_iff.1 hscan
    obtain ⟨rfl, rfl⟩ := List.cons.inj hcons
    have hlexeme := lexeme_append hlx
    obtain ⟨htext, -⟩ := text_kind_of_lexeme hlx
    refine ⟨skipped, lx.rest, _, ?_, fun x hx ↦ hgap.mem_head? hx, ⟨c, cs', ?_, hagain, ?_⟩, rfl,
      hts'⟩
    · rw [htext, hlexeme, happend]
    · rw [htext, hlexeme]
    · rw [htext, hlx]

end GoDecorator.Token
