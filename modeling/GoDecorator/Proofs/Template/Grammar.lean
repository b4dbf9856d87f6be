import GoDecorator.Proofs.Parser.Stretches
import GoDecorator.Proofs.Text.Identifiers
import GoDecorator.Template.Pieces

/-!
# The grammar of templates

A template is taken apart at its braces, and **a list of pieces comes out exactly if it can be
written back** (`pieces_eq_ok_iff`): nothing of a template is lost, and of all lists of pieces with
the same text only one is found.

## Which list is found

What decides between lists with the same text is said by `IsGrammatical`. Two literals next to each
other would be one, a literal with two opening braces in a row would hold a placeholder, and a
literal that ends in a brace would start the placeholder after it one character too early. An empty
literal is no piece, and a placeholder holds one identifier.

## Both directions

Both rest on the same two facts about the scanner: it goes through literal text up to the first
place where two opening braces stand (`piecesFrom_opening`), and through a placeholder up to the
first closing brace (`placeholderFrom_append`).

That the pieces of a template are grammatical is by induction on the length of its text, one literal
or placeholder at a time (`isGrammatical_of_piecesFrom`). That grammatical pieces are found again is
by induction on the pieces (`piecesFrom_charsOf`): the conditions on neighbours are what the scanner
needs to stop where the literal ends.
-/

namespace GoDecorator.Template

/-! ### Pieces that come out of a template -/

/-- Two opening braces stand somewhere in the text, one after the other. -/
def HasOpening (cs : List Char) : Prop := ['{', '{'] <:+: cs

/-- A literal is not empty and holds no placeholder, and the name of a placeholder is an
identifier. -/
def Piece.IsSound : Piece → Prop
  | literal t => t ≠ "" ∧ ¬ HasOpening t.toList
  | placeholder name => Text.isIdentifier name.toList = true

/-- Which pieces may stand next to each other: no two literals, and no literal with a brace at its
end before a placeholder. -/
def Piece.MayPrecede : Piece → Piece → Prop
  | literal _, literal _ => False
  | literal t, placeholder _ => t.toList.getLast? ≠ some '{'
  | placeholder _, _ => True

/-- **The pieces are those of a template.** -/
structure IsGrammatical (ps : List Piece) : Prop where
  /-- Each piece is sound. -/
  sound : ∀ p ∈ ps, p.IsSound
  /-- Each piece may stand before the next one. -/
  adjacent : ps.IsChain Piece.MayPrecede

/-- No pieces at all are grammatical. -/
theorem isGrammatical_nil : IsGrammatical [] := ⟨List.forall_mem_nil _, .nil⟩

/-- A sound piece alone is grammatical. -/
theorem isGrammatical_singleton {p : Piece} (h : p.IsSound) : IsGrammatical [p] :=
  ⟨List.forall_mem_singleton.2 h, .singleton p⟩

theorem isGrammatical_cons_cons {p q : Piece} {ps : List Piece} :
    IsGrammatical (p :: q :: ps) ↔ p.IsSound ∧ p.MayPrecede q ∧ IsGrammatical (q :: ps) := by
  constructor
  · intro h
    obtain ⟨hp, hps⟩ := List.forall_mem_cons.1 h.sound
    obtain ⟨hpq, hchain⟩ := List.isChain_cons_cons.1 h.adjacent
    exact ⟨hp, hpq, hps, hchain⟩
  · rintro ⟨hp, hpq, hps⟩
    exact ⟨List.forall_mem_cons.2 ⟨hp, hps.sound⟩, List.isChain_cons_cons.2 ⟨hpq, hps.adjacent⟩⟩

/-- Anything may follow a placeholder. -/
theorem isGrammatical_placeholder {name : String} {ps : List Piece} :
    IsGrammatical (.placeholder name :: ps) ↔
      Text.isIdentifier name.toList = true ∧ IsGrammatical ps := by
  cases ps with
  | nil =>
    exact ⟨fun h ↦ ⟨h.sound _ (List.mem_cons_self ..), isGrammatical_nil⟩,
      fun h ↦ isGrammatical_singleton h.1⟩
  | cons q ps =>
    rw [isGrammatical_cons_cons]
    exact ⟨fun h ↦ ⟨h.1, h.2.2⟩, fun h ↦ ⟨h.1, trivial, h.2⟩⟩

/-- The characters of pieces. -/
def charsOf (ps : List Piece) : List Char := ps.flatMap fun p ↦ p.text.toList

/-- The text of pieces, as characters. -/
theorem toList_join_text (ps : List Piece) :
    (String.join (ps.map Piece.text)).toList = charsOf ps := by
  induction ps with
  | nil => simp [charsOf]
  | cons p ps ih => simp [charsOf, ih]

@[simp] theorem charsOf_literal (t : String) (ps : List Piece) :
    charsOf (.literal t :: ps) = t.toList ++ charsOf ps := rfl

@[simp] theorem charsOf_placeholder (name : String) (ps : List Piece) :
    charsOf (.placeholder name :: ps) =
      '{' :: '{' :: (name.toList ++ '}' :: '}' :: charsOf ps) := by
  simp [charsOf, Piece.text]

/-- The characters of a literal in front of pieces, which is left out if it is empty. -/
theorem charsOf_withLiteral (cs : List Char) (ps : List Piece) :
    charsOf (withLiteral cs.reverse ps) = cs ++ charsOf ps := by
  unfold withLiteral
  split
  next h => simp [List.reverse_eq_nil_iff.1 (List.isEmpty_iff.1 h)]
  next => simp

/-! ### Literal text -/

/-- A text has two opening braces in a row, or the first place where it has is found. -/
theorem opening_cases (cs : List Char) :
    ¬ HasOpening cs ∨ ∃ front rest, cs = front ++ '{' :: '{' :: rest ∧ ¬ HasOpening front ∧
      front.getLast? ≠ some '{' := by
  induction cs with
  | nil => exact .inl (by simp [HasOpening])
  | cons c cs ih =>
    by_cases hhere : ['{', '{'] <+: c :: cs
    · obtain ⟨rest, hrest⟩ := hhere
      exact .inr ⟨[], rest, hrest.symm, by simp [HasOpening], by simp⟩
    rcases ih with hnone | ⟨front, rest, rfl, hfront, hlast⟩
    · exact .inl fun h ↦ (List.infix_cons_iff.1 h).elim hhere hnone
    · refine .inr ⟨c :: front, rest, rfl, fun h ↦ ?_, fun h ↦ ?_⟩
      · refine (List.infix_cons_iff.1 h).elim (fun hprefix ↦ hhere ?_) hfront
        exact hprefix.trans (List.prefix_append ..)
      · -- A brace at the end would be the first of the two.
        cases front with
        | nil =>
          obtain rfl : c = '{' := by simpa using h
          exact hhere ⟨'{' :: rest, rfl⟩
        | cons d front => exact hlast (by simpa using h)

variable (offset : Nat) (reversed : List Char)

theorem piecesFrom_cons {c : Char} {cs : List Char} (h : ¬ ['{', '{'] <+: c :: cs) :
    piecesFrom offset reversed (c :: cs) =
      piecesFrom (offset + c.utf8Size) (c :: reversed) cs := by
  rw [piecesFrom]
  rintro cs' rfl rfl
  exact h ⟨cs', rfl⟩

theorem piecesFrom_braces (cs : List Char) :
    piecesFrom offset reversed ('{' :: '{' :: cs) =
      placeholderFrom offset [] cs >>= fun ps ↦ .ok (withLiteral reversed ps) := by
  rw [piecesFrom]
  rfl

/-- Literal text up to the end of the template. -/
theorem piecesFrom_of_not_hasOpening {cs : List Char} (h : ¬ HasOpening cs) :
    piecesFrom offset reversed cs = .ok (withLiteral (cs.reverse ++ reversed) []) := by
  induction cs generalizing offset reversed with
  | nil => rfl
  | cons c cs ih =>
    obtain ⟨hhere, hrest⟩ := not_or.1 (mt List.infix_cons_iff.2 h)
    rw [piecesFrom_cons _ _ hhere, ih _ _ hrest, List.reverse_cons, List.append_assoc,
      List.singleton_append]

/-- **Literal text up to a placeholder.** -/
theorem piecesFrom_opening {front : List Char} (h : ¬ HasOpening front)
    (hlast : front.getLast? ≠ some '{') (cs : List Char) :
    piecesFrom offset reversed (front ++ '{' :: '{' :: cs) =
      placeholderFrom (offset + byteLength front) [] cs >>=
        fun ps ↦ .ok (withLiteral (front.reverse ++ reversed) ps) := by
  induction front generalizing offset reversed with
  | nil => exact piecesFrom_braces offset reversed cs
  | cons c front ih =>
    obtain ⟨hhere, hrest⟩ := not_or.1 (mt List.infix_cons_iff.2 h)
    have hnot : ¬ ['{', '{'] <+: c :: (front ++ '{' :: '{' :: cs) := by
      cases front with
      | nil => simpa [List.cons_prefix_cons, eq_comm] using hlast
      | cons d front => simpa [List.cons_prefix_cons] using hhere
    have hlast' : front.getLast? ≠ some '{' := by
      cases front with
      | nil => simp
      | cons d front => simpa using hlast
    rw [List.cons_append, piecesFrom_cons _ _ hnot, ih _ _ hrest hlast', List.reverse_cons,
      List.append_assoc, List.singleton_append, byteLength, Nat.add_assoc]

/-! ### Placeholders -/

/-- **The name of a placeholder goes up to the first closing brace.** -/
theorem placeholderFrom_append {name : List Char} (h : '}' ∉ name) (rest : List Char) :
    placeholderFrom offset reversed (name ++ rest) =
      placeholderFrom offset (name.reverse ++ reversed) rest := by
  induction name generalizing reversed with
  | nil => rfl
  | cons c name ih =>
    rw [List.mem_cons, not_or] at h
    rw [List.cons_append, placeholderFrom, ih _ h.2, List.reverse_cons, List.append_assoc,
      List.singleton_append]
    · rintro cs rfl
      exact absurd rfl h.1
    · exact fun hc ↦ absurd hc.symm h.1

theorem placeholderFrom_closing (cs : List Char) :
    placeholderFrom offset reversed ('}' :: '}' :: cs) =
      if Text.isIdentifier reversed.reverse then
        piecesFrom (offset + byteLength reversed.reverse + 4) [] cs >>=
          fun ps ↦ .ok (.placeholder (String.ofList reversed.reverse) :: ps)
      else .error (.invalidPlaceholder
        ("\x7b\x7b" ++ String.ofList reversed.reverse ++ "\x7d\x7d")) := by
  rw [placeholderFrom]
  by_cases h : Text.isIdentifier reversed.reverse = true
  · rw [if_pos h, if_pos h]
    rfl
  · rw [if_neg h, if_neg h]
    rfl

/-- What is known of a placeholder that is read: its name goes up to two closing braces. -/
theorem exists_of_placeholderFrom {cs : List Char} {ps : List Piece}
    (h : placeholderFrom offset [] cs = .ok ps) :
    ∃ name rest qs, cs = name ++ '}' :: '}' :: rest ∧ Text.isIdentifier name = true ∧
      piecesFrom (offset + byteLength name + 4) [] rest = .ok qs ∧
      ps = .placeholder (String.ofList name) :: qs := by
  by_cases hmem : '}' ∈ cs
  · obtain ⟨name, rest, rfl, hname⟩ := List.eq_append_cons_of_mem hmem
    rw [placeholderFrom_append _ _ hname, List.append_nil] at h
    -- The closing brace has to be double.
    have hdouble : ∃ rest', rest = '}' :: rest' := by
      by_contra hsingle
      rw [placeholderFrom] at h
      · cases h
      · exact fun rest' heq ↦ hsingle ⟨rest', heq⟩
    obtain ⟨rest', rfl⟩ := hdouble
    rw [placeholderFrom_closing, List.reverse_reverse] at h
    split at h
    next hident =>
      obtain ⟨qs, hqs, hps⟩ := exists_of_bind_eq_ok h
      exact ⟨name, rest', qs, rfl, hident, hqs, (Except.ok.inj hps).symm⟩
    next => cases h
  · have hend := placeholderFrom_append offset [] hmem []
    rw [List.append_nil, h] at hend
    cases hend

/-! ### Both directions -/

theorem not_mem_of_isIdentifier {name : List Char} (h : Text.isIdentifier name = true) :
    '}' ∉ name := fun hmem ↦
  absurd (Text.isIdentPart_of_isIdentifier h _ hmem) (by decide)

/-- The literal before a placeholder, if there is one, and the pieces from the placeholder on. -/
theorem isGrammatical_withLiteral {cs : List Char} (hcs : ¬ HasOpening cs)
    (hlast : cs.getLast? ≠ some '{') {name : String} {ps : List Piece}
    (h : IsGrammatical (.placeholder name :: ps)) :
    IsGrammatical (withLiteral cs.reverse (.placeholder name :: ps)) := by
  unfold withLiteral
  split
  next => exact h
  next hne =>
    have hne : cs ≠ [] := by simpa using hne
    refine isGrammatical_cons_cons.2 ⟨⟨?_, ?_⟩, ?_, h⟩
    · simpa [← String.toList_inj] using hne
    · simpa using hcs
    · simpa [Piece.MayPrecede] using hlast

/-- **What comes out of a template can be written back**, and is grammatical. -/
theorem isGrammatical_of_piecesFrom {cs : List Char} {ps : List Piece} {offset : Nat}
    (h : piecesFrom offset [] cs = .ok ps) : charsOf ps = cs ∧ IsGrammatical ps := by
  induction hn : cs.length using Nat.strongRecOn generalizing cs ps offset with
  | ind n ih =>
    rcases opening_cases cs with hnone | ⟨front, rest, rfl, hfront, hlast⟩
    · rw [piecesFrom_of_not_hasOpening _ _ hnone, List.append_nil] at h
      obtain rfl := Except.ok.inj h
      refine ⟨by simpa [charsOf] using charsOf_withLiteral cs [], ?_⟩
      unfold withLiteral
      split
      next => exact isGrammatical_nil
      next hne =>
        refine isGrammatical_singleton ⟨?_, by simpa using hnone⟩
        simpa [← String.toList_inj] using hne
    · rw [piecesFrom_opening _ _ hfront hlast, List.append_nil] at h
      obtain ⟨qs, hqs, hps⟩ := exists_of_bind_eq_ok h
      obtain rfl := Except.ok.inj hps
      obtain ⟨name, rest', qs', rfl, hname, hrest, rfl⟩ := exists_of_placeholderFrom _ hqs
      obtain ⟨hchars, hgrammatical⟩ := ih rest'.length (by rw [← hn]; simp; omega) hrest rfl
      refine ⟨?_, isGrammatical_withLiteral hfront hlast
        (isGrammatical_placeholder.2 ⟨by simpa using hname, hgrammatical⟩)⟩
      rw [charsOf_withLiteral, charsOf_placeholder, hchars, String.toList_ofList]

/-- **Grammatical pieces come out of the text that they are written as.** -/
theorem piecesFrom_charsOf {ps : List Piece} (h : IsGrammatical ps) (offset : Nat) :
    piecesFrom offset [] (charsOf ps) = .ok ps := by
  induction ps generalizing offset with
  | nil => rfl
  | cons p ps ih =>
    cases p with
    | placeholder name =>
      obtain ⟨hname, hps⟩ := isGrammatical_placeholder.1 h
      rw [charsOf_placeholder, piecesFrom_braces,
        placeholderFrom_append _ _ (not_mem_of_isIdentifier hname), List.append_nil,
        placeholderFrom_closing, List.reverse_reverse, if_pos hname, ih hps]
      simp [withLiteral]
    | literal t =>
      have ht := h.sound _ (List.mem_cons_self ..)
      have hliteral (qs : List Piece) : withLiteral (t.toList.reverse ++ []) qs =
          .literal t :: qs := by
        have hne : t.toList ≠ [] := by simpa using ht.1
        simp [withLiteral, hne]
      cases ps with
      | nil =>
        rw [charsOf_literal, show charsOf [] = [] from rfl, List.append_nil,
          piecesFrom_of_not_hasOpening _ _ ht.2, hliteral]
      | cons q ps =>
        obtain ⟨-, hprecede, hps⟩ := isGrammatical_cons_cons.1 h
        cases q with
        | literal u => exact hprecede.elim
        | placeholder name =>
          -- What follows is read from the placeholder on, with no literal before it.
          have hrest := ih hps (offset + byteLength t.toList)
          rw [charsOf_placeholder, piecesFrom_braces] at hrest
          obtain ⟨qs, hqs, hok⟩ := exists_of_bind_eq_ok hrest
          rw [charsOf_literal, charsOf_placeholder, piecesFrom_opening _ _ ht.2 hprecede, hqs,
            ok_bind, hliteral]
          exact congrArg (Except.ok <| .literal t :: ·) (Except.ok.inj hok)

/-- **The pieces of a template are those that it can be written from.** A list of pieces comes out
of a template exactly if the template is its text, each literal is not empty and has no two opening
braces in a row, the name of each placeholder is an identifier, no two literals are adjacent, and no
literal before a placeholder ends in an opening brace. -/
theorem pieces_eq_ok_iff (template : String) (ps : List Piece) :
    pieces template = .ok ps ↔
      String.join (ps.map Piece.text) = template ∧ IsGrammatical ps := by
  rw [pieces, ← String.toList_inj, toList_join_text]
  constructor
  · exact isGrammatical_of_piecesFrom
  · rintro ⟨hchars, hgrammatical⟩
    rw [← hchars]
    exact piecesFrom_charsOf hgrammatical 0

end GoDecorator.Template
