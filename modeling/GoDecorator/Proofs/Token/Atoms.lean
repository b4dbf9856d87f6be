import GoDecorator.Proofs.Token.Spelling

/-!
# Written texts and their tokens

A text that is written by a program is known by its **atoms**, the blanks and the tokens it is put
together from. This file says when the lexer finds exactly those tokens again: `SpelledAt as rest`
holds if each token is read back in front of what follows it, and then `scanFrom_atoms` gives the
tokens with their places.

`Spelled as next` is a sufficient condition that looks at one character after each token. It is the
one that is checked where a text is put together, since the character after a stretch is known long
before the rest of the text is. Both conditions split where atoms are appended (`spelled_append`,
`spelledAt_append`).

## Places

The places only matter in one respect: a body token remembers whether it touches the one before it.
`place` computes the places from the atoms, a blank being one character, so that statements about
touching tokens become statements about blanks between them. The kinds of the tokens do not depend
on where a text stands (`map_kind_scanFrom`).

## Texts that are not known

Of a text that is not known in full it can still be said that it has tokens: the lexer only gives up
on a text that ends in a backslash (`exists_scanFrom`). The induction is on the length of the text,
as is that of `map_kind_scanFrom`, because the lexer goes on with what a token leaves.
-/

namespace GoDecorator.Token

/-! ### Atoms -/

/-- What a written text is put together from. -/
inductive Atom where
  /-- A blank. -/
  | blank (char : Char)
  /-- A token, with its own text. -/
  | token (kind : Kind)
deriving DecidableEq, Repr

namespace Atom

/-- The characters of an atom. -/
def text : Atom → List Char
  | blank c => [c]
  | token k => k.text.toList

/-- The token of an atom that is one. -/
def kind? : Atom → Option Kind
  | blank _ => none
  | token k => some k

end Atom

/-- The text of atoms. -/
def atomsText (as : List Atom) : List Char := as.flatMap Atom.text

@[simp] theorem atomsText_nil : atomsText [] = [] := rfl

@[simp] theorem atomsText_blank (c : Char) (as : List Atom) :
    atomsText (.blank c :: as) = c :: atomsText as := rfl

@[simp] theorem atomsText_token (k : Kind) (as : List Atom) :
    atomsText (.token k :: as) = k.text.toList ++ atomsText as := rfl

@[simp] theorem atomsText_append (as bs : List Atom) :
    atomsText (as ++ bs) = atomsText as ++ atomsText bs := by
  simp [atomsText]

/-- The tokens of atoms, without their places. -/
def kinds (as : List Atom) : List Kind := as.filterMap Atom.kind?

@[simp] theorem kinds_nil : kinds [] = [] := rfl

@[simp] theorem kinds_blank (c : Char) (as : List Atom) : kinds (.blank c :: as) = kinds as := rfl

@[simp] theorem kinds_token (k : Kind) (as : List Atom) :
    kinds (.token k :: as) = k :: kinds as := rfl

@[simp] theorem kinds_append (as bs : List Atom) : kinds (as ++ bs) = kinds as ++ kinds bs := by
  simp [kinds]

/-- The character that a text of atoms starts with, given the one after it. -/
def firstChar (as : List Atom) (next : Option Char) : Option Char := (atomsText as).head?.or next

@[simp] theorem firstChar_nil (next : Option Char) : firstChar [] next = next := rfl

@[simp] theorem firstChar_blank (c : Char) (as : List Atom) (next : Option Char) :
    firstChar (.blank c :: as) next = some c := rfl

/-- What follows the first stretch is the second one. -/
theorem firstChar_append (as bs : List Atom) (next : Option Char) :
    firstChar (as ++ bs) next = firstChar as (firstChar bs next) := by
  simp [firstChar, List.head?_append, Option.or_assoc]

/-- A token is what the text starts with. -/
theorem firstChar_token {k : Kind} (hk : k.text.toList ≠ []) (as : List Atom)
    (next : Option Char) : firstChar (.token k :: as) next = k.text.toList.head? := by
  obtain ⟨c, cs, hcs⟩ := List.exists_cons_of_ne_nil hk
  simp [firstChar, hcs]

/-- **Each token is read back in front of what follows it**, and each blank is one. -/
def Spelled : List Atom → Option Char → Prop
  | [], _ => True
  | .blank c :: as, next => (c = ' ' ∨ c = '\t') ∧ Spelled as next
  | .token k :: as, next => k.ReadsBefore (firstChar as next) ∧ Spelled as next

@[simp] theorem spelled_nil (next : Option Char) : Spelled [] next := trivial

@[simp] theorem spelled_blank (c : Char) (as : List Atom) (next : Option Char) :
    Spelled (.blank c :: as) next ↔ (c = ' ' ∨ c = '\t') ∧ Spelled as next := Iff.rfl

@[simp] theorem spelled_token (k : Kind) (as : List Atom) (next : Option Char) :
    Spelled (.token k :: as) next ↔ k.ReadsBefore (firstChar as next) ∧ Spelled as next := Iff.rfl

/-- The first stretch is read back in front of the second one. -/
theorem spelled_append (as bs : List Atom) (next : Option Char) :
    Spelled (as ++ bs) next ↔ Spelled as (firstChar bs next) ∧ Spelled bs next := by
  induction as with
  | nil => simp
  | cons a as ih =>
    cases a with
    | blank c => simp [ih, and_assoc]
    | token k => simp [ih, firstChar_append, and_assoc]

/-- Each token is read back in front of what follows it, up to the given text. -/
def SpelledAt : List Atom → List Char → Prop
  | [], _ => True
  | .blank c :: as, rest => (c = ' ' ∨ c = '\t') ∧ SpelledAt as rest
  | .token k :: as, rest => k.ReadsAt (atomsText as ++ rest) ∧ SpelledAt as rest

/-- The same, up to a given text. -/
theorem spelledAt_append (as bs : List Atom) (rest : List Char) :
    SpelledAt (as ++ bs) rest ↔ SpelledAt as (atomsText bs ++ rest) ∧ SpelledAt bs rest := by
  induction as with
  | nil => simp [SpelledAt]
  | cons a as ih => cases a <;> simp [SpelledAt, ih, and_assoc]

/-- What is read back in front of a character is read back in front of a text that starts with
it. -/
theorem Spelled.spelledAt {as : List Atom} {rest : List Char} (h : Spelled as rest.head?) :
    SpelledAt as rest := by
  induction as with
  | nil => trivial
  | cons a as ih =>
    cases a with
    | blank c => exact ⟨h.1, ih h.2⟩
    | token k => exact ⟨h.1 _ List.head?_append, ih h.2⟩

/-- A token that is read back has text. -/
theorem text_ne_nil_of_readsAt {k : Kind} {rest : List Char} (h : k.ReadsAt rest) :
    k.text.toList ≠ [] := by
  intro hnil
  obtain ⟨c, cs, hcs, -, hlex⟩ := h
  exact text_ne_nil_of_lexeme hlex hnil

theorem text_ne_nil_of_readsBefore {k : Kind} {next : Option Char} (h : k.ReadsBefore next) :
    k.text.toList ≠ [] :=
  text_ne_nil_of_readsAt (h next.toList (by cases next <;> rfl))

/-! ### The tokens of atoms -/

/-- The tokens of atoms with their places, given how many characters come before them and which line
they start on. -/
def place (offset line : Nat) : List Atom → List Token
  | [] => []
  | .blank _ :: as => place (offset + 1) line as
  | .token k :: as =>
    ⟨k, ⟨offset, offset + k.text.toList.length, line⟩⟩ ::
      place (offset + k.text.toList.length) (line + lineBreaks k.text.toList) as

/-- The tokens are those of the atoms. -/
@[simp] theorem map_kind_place (offset line : Nat) (as : List Atom) :
    (place offset line as).map Token.kind = kinds as := by
  induction as generalizing offset line with
  | nil => rfl
  | cons a as ih => cases a <;> simp [place, ih]

/-- The places of atoms do not depend on what comes after them. -/
theorem place_append (offset line : Nat) (as bs : List Atom) :
    ∃ line', place offset line (as ++ bs) =
      place offset line as ++ place (offset + (atomsText as).length) line' bs := by
  induction as generalizing offset line with
  | nil => exact ⟨line, rfl⟩
  | cons a as ih =>
    cases a with
    | blank c =>
      obtain ⟨line', h⟩ := ih (offset + 1) line
      refine ⟨line', ?_⟩
      rw [List.cons_append, place, place, h, atomsText_blank, List.length_cons]
      simp only [Nat.add_assoc, Nat.add_comm 1]
    | token k =>
      obtain ⟨line', h⟩ := ih (offset + k.text.toList.length) (line + lineBreaks k.text.toList)
      refine ⟨line', ?_⟩
      rw [List.cons_append, place, place, h, atomsText_token, List.length_append,
        List.cons_append, Nat.add_assoc]

/-- One step of the lexer. -/
theorem scanFrom_eq (offset line : Nat) (cs : List Char) :
    scanFrom offset line cs =
      match gap .plain cs with
      | (skipped, []) =>
        some [⟨.eof, ⟨offset + skipped.length, offset + skipped.length,
          line + lineBreaks skipped⟩⟩]
      | (skipped, c :: cs') =>
        (lexeme c cs').bind fun lx ↦
          (scanFrom (offset + skipped.length + lx.text.length)
            (line + lineBreaks skipped + lineBreaks lx.text) lx.rest).map
            (⟨lx.kind, ⟨offset + skipped.length, offset + skipped.length + lx.text.length,
              line + lineBreaks skipped⟩⟩ :: ·) := by
  rw [scanFrom]
  split
  · rename_i h
    rw [h]
  · rename_i h
    rw [h]
    split
    · rename_i hl
      simp [hl]
    · rename_i hl
      simp [hl]

/-- **What the tokens of a text are does not depend on where the text stands.** -/
theorem map_kind_scanFrom (offset line offset' line' : Nat) (cs : List Char) :
    (scanFrom offset line cs).map (List.map Token.kind) =
      (scanFrom offset' line' cs).map (List.map Token.kind) := by
  induction hn : cs.length using Nat.strongRecOn generalizing cs offset line offset' line' with
  | ind n ih =>
    rw [scanFrom_eq, scanFrom_eq]
    have hle := length_gap_le .plain cs
    generalize gap .plain cs = g at hle ⊢
    obtain ⟨skipped, rest⟩ := g
    cases rest with
    | nil => rfl
    | cons c cs' =>
      dsimp only
      cases hlx : lexeme c cs' with
      | none => rfl
      | some lx =>
        have hlt := length_rest_lt_of_lexeme hlx
        have hrest := ih lx.rest.length (Nat.lt_of_lt_of_le hlt (hn ▸ hle))
          (offset + skipped.length + lx.text.length)
          (line + lineBreaks skipped + lineBreaks lx.text)
          (offset' + skipped.length + lx.text.length)
          (line' + lineBreaks skipped + lineBreaks lx.text) lx.rest rfl
        -- The kind of the lexeme is put in front on both sides.
        have hcons := congrArg (Option.map (List.cons lx.kind)) hrest
        simp only [Option.map_map] at hcons
        simp only [Option.bind_some, Option.map_map]
        exact hcons

/-- A blank is skipped. -/
theorem scanFrom_blank {c : Char} (hc : c = ' ' ∨ c = '\t') (offset line : Nat) (cs : List Char) :
    scanFrom offset line (c :: cs) = scanFrom (offset + 1) line cs := by
  have hgap : gap .plain (c :: cs) = (c :: (gap .plain cs).1, (gap .plain cs).2) := by
    rcases hc with rfl | rfl <;> simp [gap]
  have hbreak : ∀ skipped, lineBreaks (c :: skipped) = lineBreaks skipped := by
    intro skipped
    rcases hc with rfl | rfl <;> simp [lineBreaks]
  rw [scanFrom_eq, scanFrom_eq, hgap]
  obtain ⟨skipped, rest⟩ := gap .plain cs
  cases rest with
  | nil => simp only [List.length_cons, hbreak, Nat.add_assoc, Nat.add_comm 1]
  | cons d ds => simp only [List.length_cons, hbreak, Nat.add_assoc, Nat.add_comm 1]

/-- A token that is read back is the next token. -/
theorem scanFrom_token {k : Kind} {rest : List Char} (h : k.ReadsAt rest) (offset line : Nat) :
    scanFrom offset line (k.text.toList ++ rest) =
      (scanFrom (offset + k.text.toList.length) (line + lineBreaks k.text.toList) rest).map
        (⟨k, ⟨offset, offset + k.text.toList.length, line⟩⟩ :: ·) := by
  obtain ⟨c, cs, hcs, hgap, hlex⟩ := h
  rw [hcs, scanFrom_eq, hgap]
  simp [hlex, lineBreaks]

/-- **The lexer finds the tokens of atoms again.** -/
theorem scanFrom_atoms {as : List Atom} {rest : List Char} (h : SpelledAt as rest)
    (offset line : Nat) :
    ∃ line', scanFrom offset line (atomsText as ++ rest) =
      (scanFrom (offset + (atomsText as).length) line' rest).map (place offset line as ++ ·) := by
  induction as generalizing offset line with
  | nil => exact ⟨line, by simp [place]⟩
  | cons a as ih =>
    cases a with
    | blank c =>
      obtain ⟨line', hscan⟩ := ih h.2 (offset + 1) line
      refine ⟨line', ?_⟩
      rw [atomsText_blank, List.cons_append, scanFrom_blank h.1, hscan, place, List.length_cons]
      simp only [Nat.add_assoc, Nat.add_comm 1]
    | token k =>
      obtain ⟨hk, has⟩ := h
      obtain ⟨line', hscan⟩ :=
        ih has (offset + k.text.toList.length) (line + lineBreaks k.text.toList)
      refine ⟨line', ?_⟩
      rw [atomsText_token, List.append_assoc, scanFrom_token hk, hscan, place, List.length_append,
        Nat.add_assoc, Option.map_map]
      rfl

/-- The whole text of atoms has the tokens of the atoms and the end of the source. -/
theorem scan_atoms {as : List Atom} (h : SpelledAt as []) {source : String}
    (hs : source.toList = atomsText as) :
    ∃ stop, scan source = some (place 0 1 as ++ [⟨.eof, stop⟩]) := by
  obtain ⟨line', hscan⟩ := @scanFrom_atoms _ [] h 0 1
  rw [List.append_nil, ← hs] at hscan
  rw [scan, hscan, scanFrom_eq]
  exact ⟨_, rfl⟩

/-! ### Texts that do not end in a backslash -/

/-- A literal has an end unless the text ends in a backslash. -/
theorem getLast?_of_quotedTail_eq_none {quote : Char} {cs : List Char}
    (h : quotedTail quote cs = none) : cs.getLast? = some '\\' := by
  fun_induction quotedTail quote cs with
  | case1 => cases h
  | case2 => cases h
  | case3 c hq hb => simp [hb.1]
  | case4 c hq hb d cs' ih =>
    have hlast := ih (by simpa using h)
    simp [List.getLast?_cons, hlast]
  | case5 => cases h
  | case6 c cs hq hb hn ih =>
    have hlast := ih (by simpa using h)
    simp [List.getLast?_cons, hlast]

/-- The lexer finds no token only where a literal runs over the end. -/
theorem getLast?_of_lexeme_eq_none {c : Char} {cs : List Char} (h : lexeme c cs = none) :
    (c :: cs).getLast? = some '\\' := by
  rw [lexeme] at h
  split at h
  · cases h
  · split at h
    · cases h
    · split at h
      · have hlast := getLast?_of_quotedTail_eq_none (by simpa using h)
        simp [List.getLast?_cons, hlast]
      · split at h <;> cases h

/-- **A text that does not end in a backslash has tokens.** -/
theorem exists_scanFrom {cs : List Char} (h : cs.getLast? ≠ some '\\') (offset line : Nat) :
    ∃ ts, scanFrom offset line cs = some ts := by
  induction hn : cs.length using Nat.strongRecOn generalizing cs offset line with
  | ind n ih =>
    rw [scanFrom_eq]
    have hgap := gap_append .plain cs
    have hle := length_gap_le .plain cs
    generalize gap .plain cs = g at hgap hle ⊢
    obtain ⟨skipped, rest⟩ := g
    cases rest with
    | nil => exact ⟨_, rfl⟩
    | cons c cs' =>
      have hlast : (c :: cs').getLast? ≠ some '\\' := by
        intro heq
        apply h
        rw [← hgap, List.getLast?_append, heq]
        rfl
      obtain ⟨lx, hlx⟩ := Option.ne_none_iff_exists'.1 (mt getLast?_of_lexeme_eq_none hlast)
      have hlt := length_rest_lt_of_lexeme hlx
      have hrest : lx.rest.getLast? ≠ some '\\' := by
        intro heq
        apply hlast
        rw [← lexeme_append hlx, List.getLast?_append, heq]
        rfl
      obtain ⟨ts, hts⟩ := ih lx.rest.length (Nat.lt_of_lt_of_le hlt (hn ▸ hle)) hrest
        (offset + skipped.length + lx.text.length)
        (line + lineBreaks skipped + lineBreaks lx.text) rfl
      exact ⟨_, by simp only [hlx, Option.bind_some, hts]; rfl⟩

end GoDecorator.Token
