import GoDecorator.Proofs.Token.Names

/-!
# Phrases

A phrase is a stretch of atoms that can be put into a larger text without looking inside it. It is
read back in front of every terminator, its tokens may be set apart by blanks, its brackets match,
and it has no colon. The last two conditions are what a function body depends on: a body ends at the
first closing brace where no bracket is open, and a line is taken apart at a colon.

Everything that is filled into a template is the text of a phrase (`IsPhrase`): types, names, calls,
lists of parameters. So whether a template can be filled and read again is a question about the
template alone, and it can be tested once for all inputs.

## Building phrases

* A token may stand in front of a phrase if it is read back in front of the phrase's first character
  (`Phrase.cons`). For symbols that start no longer symbol, and where a blank comes between, this
  needs no look at the phrase (`Phrase.cons_loose`, `Phrase.cons_blank`).
* Brackets go around a phrase (`Phrase.bracketed`).
* Phrases are joined where the second starts with a terminator (`Phrase.append`), as in a list with
  commas (`phrase_commaAtoms`). Without the condition the last token of the first one and the first
  token of the second one might be read as one.

Whether brackets match is decided by `depthAfter`, which counts the open ones and gives up where one
is closed that was not opened. The kinds of brackets are not compared, as the parser does not
compare them in bodies.
-/

namespace GoDecorator.Token

/-! ### Matching brackets -/

/-- The number of open brackets after tokens, if no bracket is closed that was not opened. -/
def depthAfter : Nat → List Kind → Option Nat
  | depth, [] => some depth
  | depth, k :: ks =>
    if k.isOpening then depthAfter (depth + 1) ks
    else if k.isClosing then
      match depth with
      | 0 => none
      | depth + 1 => depthAfter depth ks
    else depthAfter depth ks

/-- The count goes on with the tokens that follow. -/
theorem depthAfter_append (depth : Nat) (ks ls : List Kind) :
    depthAfter depth (ks ++ ls) = (depthAfter depth ks).bind fun d ↦ depthAfter d ls := by
  induction ks generalizing depth with
  | nil => rfl
  | cons k ks ih =>
    simp only [List.cons_append, depthAfter]
    split
    · exact ih _
    · split
      · cases depth with
        | zero => rfl
        | succ depth => exact ih _
      · exact ih _

theorem depthAfter_opening (depth : Nat) (b : Bracket) (ks : List Kind) :
    depthAfter depth (.opening b :: ks) = depthAfter (depth + 1) ks := rfl

theorem depthAfter_closing (depth : Nat) (b : Bracket) (ks : List Kind) :
    depthAfter (depth + 1) (.closing b :: ks) = depthAfter depth ks := rfl

/-- Whether the token is no bracket, no colon and not the end of the source. -/
def Kind.isNeutral : Kind → Bool
  | .opening _ | .closing _ | .colon | .eof => false
  | _ => true

/-- Only brackets are counted. -/
theorem depthAfter_cons_of_isNeutral {k : Kind} (hk : k.isNeutral = true) (depth : Nat)
    (ks : List Kind) : depthAfter depth (k :: ks) = depthAfter depth ks := by
  cases k <;> first | rfl | cases hk

/-! ### Phrases -/

/-- **Atoms that can be put in front of any terminator.** -/
structure Phrase (as : List Atom) : Prop where
  /-- They are read back in front of every terminator. -/
  spelled : ∀ next : Option Char, next.all (· ∈ terminators) = true → Spelled as next
  /-- Each token may be set apart from the one after it. -/
  closed : ∀ k ∈ kinds as, k.Closed
  /-- There is no colon, and not the end of the source. -/
  quiet : ∀ k ∈ kinds as, k ≠ .colon ∧ k ≠ .eof
  /-- The brackets match. -/
  balanced : ∀ depth, depthAfter depth (kinds as) = some depth

variable {as bs : List Atom} {k : Kind}

/-- A phrase is read back in front of a text that starts with a terminator. -/
theorem Phrase.spelledAt (h : Phrase as) {c : Char} (hc : c ∈ terminators) (more : List Char) :
    SpelledAt as (c :: more) :=
  Spelled.spelledAt (h.spelled (some c) (by simpa using hc))

/-- No atoms at all are a phrase. -/
theorem phrase_nil : Phrase [] := ⟨by simp, by simp, by simp, fun _ ↦ rfl⟩

theorem ne_colon_of_isNeutral (hk : k.isNeutral = true) : k ≠ .colon ∧ k ≠ .eof := by
  constructor
  · rintro rfl
    cases hk
  · rintro rfl
    cases hk

/-- A token in front of a phrase, where it is read back in front of the phrase's first character. -/
theorem Phrase.cons (h : Phrase as) (hk : k.Closed) (hn : k.isNeutral = true)
    (hread : ∀ next : Option Char, next.all (· ∈ terminators) = true →
      k.ReadsBefore (firstChar as next)) : Phrase (.token k :: as) where
  spelled next hnext := ⟨hread next hnext, h.spelled next hnext⟩
  closed l hl := by
    rcases List.mem_cons.1 hl with rfl | hl
    · exact hk
    · exact h.closed l hl
  quiet l hl := by
    rcases List.mem_cons.1 hl with rfl | hl
    · exact ne_colon_of_isNeutral hn
    · exact h.quiet l hl
  balanced depth := by
    rw [kinds_token, depthAfter_cons_of_isNeutral hn]
    exact h.balanced depth

/-- A blank in front of a phrase. -/
theorem Phrase.blank (h : Phrase as) : Phrase (.blank ' ' :: as) :=
  ⟨fun next hn ↦ ⟨.inl rfl, h.spelled next hn⟩, h.closed, h.quiet, h.balanced⟩

/-- A loose symbol in front of a phrase. -/
theorem Phrase.cons_loose (h : Phrase as) (hk : k.isLoose = true) (hn : k.isNeutral = true) :
    Phrase (.token k :: as) :=
  h.cons (closed_symbol (mem_symbols_of_isLoose hk)) hn fun _ _ ↦ readsBefore_of_isLoose hk _

/-- A token with a blank after it, in front of a phrase. -/
theorem Phrase.cons_blank (h : Phrase as) (hk : k.Closed) (hn : k.isNeutral = true) :
    Phrase (.token k :: .blank ' ' :: as) :=
  h.blank.cons hk hn fun _ _ ↦ hk _ (by rw [firstChar_blank]; decide)

/-- A single token. -/
theorem phrase_token (hk : k.Closed) (hn : k.isNeutral = true) : Phrase [.token k] :=
  phrase_nil.cons hk hn fun next hnext ↦ hk next hnext

/-- A name is a phrase. -/
theorem IsName.phrase {name : String} (h : IsName name) : Phrase [.token (.ident name)] :=
  phrase_token h.closed rfl

/-- Two phrases, where the second starts with a terminator. -/
theorem Phrase.append (ha : Phrase as) (hb : Phrase bs)
    (hfirst : ∀ next : Option Char, next.all (· ∈ terminators) = true →
      (firstChar bs next).all (· ∈ terminators) = true) : Phrase (as ++ bs) where
  spelled next hnext :=
    (spelled_append as bs next).2 ⟨ha.spelled _ (hfirst next hnext), hb.spelled next hnext⟩
  closed l hl := by
    rw [kinds_append, List.mem_append] at hl
    rcases hl with hl | hl
    · exact ha.closed l hl
    · exact hb.closed l hl
  quiet l hl := by
    rw [kinds_append, List.mem_append] at hl
    rcases hl with hl | hl
    · exact ha.quiet l hl
    · exact hb.quiet l hl
  balanced depth := by
    rw [kinds_append, depthAfter_append, ha.balanced, Option.bind_some, hb.balanced]

/-- A bracket is read back whatever follows it. -/
theorem isLoose_bracket (b : Bracket) :
    (Kind.opening b).isLoose = true ∧ (Kind.closing b).isLoose = true := by
  cases b <;> decide

/-- No symbol starts with a character of an identifier. -/
theorem not_isIdentPart_firstChar (hk : k ∈ symbols) (as : List Atom) (next : Option Char) :
    (firstChar (.token k :: as) next).any Text.isIdentPart = false := by
  have hall : ∀ s ∈ symbols, s.text.toList.head?.any Text.isIdentPart = false := by decide
  rw [firstChar_token (text_ne_nil_of_mem_symbols hk)]
  exact hall k hk

/-- A closing bracket is a terminator. -/
theorem firstChar_closing (b : Bracket) (as : List Atom) (next : Option Char) :
    (firstChar (.token (.closing b) :: as) next).all (· ∈ terminators) = true := by
  rw [firstChar_token (by cases b <;> decide)]
  cases b <;> decide

/-- Brackets around a phrase, and a phrase after them. -/
theorem Phrase.bracketed (b : Bracket) (ha : Phrase as) (hb : Phrase bs) :
    Phrase (.token (.opening b) :: (as ++ .token (.closing b) :: bs)) where
  spelled next hnext := by
    refine ⟨readsBefore_of_isLoose (isLoose_bracket b).1 _, (spelled_append ..).2 ⟨?_, ?_, ?_⟩⟩
    · exact ha.spelled _ (firstChar_closing b bs next)
    · exact readsBefore_of_isLoose (isLoose_bracket b).2 _
    · exact hb.spelled next hnext
  closed l hl := by
    simp only [kinds_token, kinds_append, List.mem_cons, List.mem_append] at hl
    rcases hl with rfl | hl | rfl | hl
    · exact closed_symbol (mem_symbols_of_isLoose (isLoose_bracket b).1)
    · exact ha.closed l hl
    · exact closed_symbol (mem_symbols_of_isLoose (isLoose_bracket b).2)
    · exact hb.closed l hl
  quiet l hl := by
    simp only [kinds_token, kinds_append, List.mem_cons, List.mem_append] at hl
    rcases hl with rfl | hl | rfl | hl
    · simp
    · exact ha.quiet l hl
    · simp
    · exact hb.quiet l hl
  balanced depth := by
    rw [kinds_token, depthAfter_opening, kinds_append, depthAfter_append, ha.balanced,
      Option.bind_some, kinds_token, depthAfter_closing, hb.balanced]

/-- The tokens of a name text. -/
theorem NameAtoms.phrase (h : NameAtoms as) : Phrase as where
  spelled := h.spelled
  closed := h.closed
  quiet l hl := by
    obtain ⟨a, ha, hal⟩ := List.mem_filterMap.1 hl
    obtain ⟨k, rfl, hk⟩ := h.plain a ha
    obtain rfl : k = l := Option.some.inj hal
    refine ne_colon_of_isNeutral ?_
    cases k <;> first | rfl | cases hk
  balanced := by
    have hplain := h.plain
    clear h
    induction as with
    | nil => exact fun _ ↦ rfl
    | cons a as ih =>
      intro depth
      obtain ⟨k, rfl, hk⟩ := hplain a (by simp)
      have hn : k.isNeutral = true := by cases k <;> first | rfl | cases hk
      rw [kinds_token, depthAfter_cons_of_isNeutral hn]
      exact ih (fun b hb ↦ hplain b (List.mem_cons_of_mem _ hb)) depth

/-! ### Lists with commas -/

/-- Stretches of atoms with a comma and a blank between them. -/
def commaAtoms (xss : List (List Atom)) : List Atom := [.token .comma, .blank ' '].intercalate xss

@[simp] theorem commaAtoms_nil : commaAtoms [] = [] := rfl

@[simp] theorem commaAtoms_singleton (xs : List Atom) : commaAtoms [xs] = xs := by
  simp [commaAtoms]

@[simp] theorem commaAtoms_cons_cons (xs ys : List Atom) (xss : List (List Atom)) :
    commaAtoms (xs :: ys :: xss) = xs ++ .token .comma :: .blank ' ' :: commaAtoms (ys :: xss) := by
  simp [commaAtoms]

/-- The tokens of a list are those of its items with commas between them. -/
theorem kinds_commaAtoms (xss : List (List Atom)) :
    kinds (commaAtoms xss) = [.comma].intercalate (xss.map kinds) := by
  induction xss with
  | nil => rfl
  | cons xs xss ih =>
    cases xss with
    | nil => simp
    | cons ys xss => simp [ih]

/-- The text of a list is that of its items with commas and blanks between them. -/
theorem atomsText_commaAtoms (xss : List (List Atom)) :
    atomsText (commaAtoms xss) = ", ".toList.intercalate (xss.map atomsText) := by
  induction xss with
  | nil => rfl
  | cons xs xss ih =>
    cases xss with
    | nil => simp
    | cons ys xss => simp [ih, Kind.text]

/-- **A list of phrases with commas between them is a phrase.** -/
theorem phrase_commaAtoms {xss : List (List Atom)} (h : ∀ xs ∈ xss, Phrase xs) :
    Phrase (commaAtoms xss) := by
  induction xss with
  | nil => exact phrase_nil
  | cons xs xss ih =>
    cases xss with
    | nil => simpa using h
    | cons ys xss =>
      rw [commaAtoms_cons_cons]
      have hrest := ih fun zs hzs ↦ h zs (List.mem_cons_of_mem _ hzs)
      have hcomma := hrest.blank.cons_loose (k := .comma) (by decide) rfl
      refine (h xs (by simp)).append hcomma fun next _ ↦ ?_
      rw [firstChar_token (by decide)]
      decide

/-! ### Texts that are phrases -/

/-- The text is that of a phrase. -/
def IsPhrase (text : String) : Prop := ∃ as, atomsText as = text.toList ∧ Phrase as

end GoDecorator.Token
