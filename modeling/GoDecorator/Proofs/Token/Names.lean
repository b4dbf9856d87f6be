import GoDecorator.Proofs.Token.Atoms

/-!
# Names

A name is an identifier in the sense that the lexer reads it as one: `IsName name` says that the
tokens of the text `name` are the identifier `name` and the end of the source. That is so exactly if
the text has the characters of an identifier and is no keyword (`isName_iff`), and **every
identifier that the lexer finds in any text is a name** (`Scanned.isName`).

The definition is in terms of the lexer, since that is what it means for generated text; the
characterisation makes it decidable. `Scanned` says of a list of tokens that it is what is left of
the tokens of some text. Parsers only ever take tokens from the front, so all the tokens they see
are scanned, and so are the names in what they read.

## Names that are no identifiers

Some names are made from others by putting their first letter into lower case, and there is one
letter where this gives two characters, the second of which belongs to no token
(`Text.lowercase_dottedCapital`). Such a name is *broken* (`IsBroken`), and a *label* is a name that
is an identifier or broken (`IsLabel`).

A broken name is no name, but its text is still cut into tokens of its own, whatever follows it
(`exists_atoms_of_isNameText`): words, numbers after the combining dot, and the dot itself. This is
what it takes to say how the parser fails on it. None of these tokens is a bracket or a separator
(`Kind.isPlain`), so a broken name in a body does no harm to the brackets around it.
-/

namespace GoDecorator.Token

/-! ### Identifiers that the lexer finds -/

/-- **The lexer reads the text as one identifier.** -/
def IsName (name : String) : Prop :=
  (scan name).map (·.map Token.kind) = some [.ident name, .eof]

/-- What a word of the lexer is. -/
theorem isIdentifier_of_word {c : Char} {cs : List Char} (hc : Text.isIdentStart c = true)
    {name : String} (h : (word c cs).kind = .ident name) :
    Text.isIdentifier name.toList = true ∧ Keyword.ofText? name = none := by
  simp only [word] at h
  cases hk : Keyword.ofText? (String.ofList (c :: cs.takeWhile Text.isIdentPart)) with
  | some word =>
    rw [hk] at h
    cases h
  | none =>
    rw [hk] at h
    obtain rfl : _ = name := Kind.ident.inj h
    refine ⟨?_, hk⟩
    rw [String.toList_ofList, Text.isIdentifier, hc, Bool.true_and, List.all_eq_true]
    exact fun d hd ↦ List.all_eq_true.1 (List.all_takeWhile ..) d hd

/-- No symbol is an identifier. -/
theorem symbol_ne_ident (c : Char) (cs : List Char) (name : String) :
    (symbol c cs).kind ≠ .ident name := by
  have hall : ∀ k ∈ symbols, ∀ name, k ≠ .ident name := by
    simp [symbols]
  unfold symbol
  split
  · rename_i k hk
    exact hall k (List.mem_of_find?_eq_some hk) name
  · simp

/-- An identifier that the lexer finds has the characters of one and is no keyword. -/
theorem isIdentifier_of_lexeme {c : Char} {cs : List Char} {lx : Lexeme}
    (h : lexeme c cs = some lx) {name : String} (hk : lx.kind = .ident name) :
    Text.isIdentifier name.toList = true ∧ Keyword.ofText? name = none := by
  unfold lexeme at h
  split at h
  · rename_i hc
    obtain rfl := Option.some.inj h
    exact isIdentifier_of_word hc hk
  · split at h
    · obtain rfl := Option.some.inj h
      dsimp only at hk
      split at hk <;> cases hk
    · split at h
      · obtain ⟨r, hr, rfl⟩ := Option.map_eq_some_iff.1 h
        dsimp only at hk
        split at hk <;> cases hk
      · split at h
        · obtain rfl := Option.some.inj h
          cases hk
        · obtain rfl := Option.some.inj h
          exact absurd hk (symbol_ne_ident c cs name)

/-- The same of any token of a text. -/
theorem isIdentifier_of_mem_scanFrom {cs : List Char} {offset line : Nat} {ts : List Token}
    (h : scanFrom offset line cs = some ts) {t : Token} (ht : t ∈ ts) {name : String}
    (hk : t.kind = .ident name) :
    Text.isIdentifier name.toList = true ∧ Keyword.ofText? name = none := by
  induction hn : cs.length using Nat.strongRecOn generalizing cs offset line ts with
  | ind n ih =>
    rw [scanFrom_eq] at h
    have hle := length_gap_le .plain cs
    generalize gap .plain cs = g at hle h
    obtain ⟨skipped, rest⟩ := g
    cases rest with
    | nil =>
      obtain rfl := Option.some.inj h
      obtain rfl := List.mem_singleton.1 ht
      cases hk
    | cons c cs' =>
      obtain ⟨lx, hlx, hscan⟩ := Option.bind_eq_some_iff.1 h
      obtain ⟨ts', hts', rfl⟩ := Option.map_eq_some_iff.1 hscan
      have hlt := length_rest_lt_of_lexeme hlx
      rcases List.mem_cons.1 ht with rfl | ht
      · exact isIdentifier_of_lexeme hlx hk
      · exact ih lx.rest.length (Nat.lt_of_lt_of_le hlt (hn ▸ hle)) hts' ht rfl

/-- **A text is read as one identifier exactly if it has the characters of one and is no keyword.**
-/
theorem isName_iff {name : String} :
    IsName name ↔ Text.isIdentifier name.toList = true ∧ Keyword.ofText? name = none := by
  constructor
  · intro h
    obtain ⟨ts, hts, hkinds⟩ := Option.map_eq_some_iff.1 h
    obtain ⟨t, ts', rfl, hk, -⟩ := List.map_eq_cons_iff.1 hkinds
    exact isIdentifier_of_mem_scanFrom hts (List.mem_cons_self ..) hk
  · rintro ⟨hi, hk⟩
    have hspelled : Spelled [.token (.ident name)] none := ⟨readsBefore_ident hi hk rfl, trivial⟩
    obtain ⟨stop, hscan⟩ := @scan_atoms _ hspelled.spelledAt name (by simp [Kind.text])
    rw [IsName, hscan]
    simp

instance (name : String) : Decidable (IsName name) := decidable_of_iff' _ isName_iff

/-- The tokens are the last ones of a text. -/
def Scanned (ts : List Token) : Prop :=
  ts = [] ∨ ∃ offset line cs, scanFrom offset line cs = some ts

/-- The tokens of a source are scanned. -/
theorem scanned_of_scan {source : String} {ts : List Token} (h : scan source = some ts) :
    Scanned ts := .inr ⟨_, _, _, h⟩

/-- What comes after the first token was found by the lexer as well. -/
theorem Scanned.tail {t : Token} {ts : List Token} (h : Scanned (t :: ts)) : Scanned ts := by
  rcases h with h | ⟨offset, line, cs, h⟩
  · cases h
  rw [scanFrom_eq] at h
  generalize gap .plain cs = g at h
  obtain ⟨skipped, rest⟩ := g
  cases rest with
  | nil => exact .inl (List.cons.inj (Option.some.inj h)).2.symm
  | cons c cs' =>
    obtain ⟨lx, -, hscan⟩ := Option.bind_eq_some_iff.1 h
    obtain ⟨ts', hts', hcons⟩ := Option.map_eq_some_iff.1 hscan
    obtain rfl := (List.cons.inj hcons).2
    exact .inr ⟨_, _, _, hts'⟩

/-- So is whatever is left of scanned tokens. -/
theorem Scanned.suffix {ts us : List Token} (h : Scanned ts) (hs : us <:+ ts) : Scanned us := by
  obtain ⟨front, rfl⟩ := hs
  induction front with
  | nil => exact h
  | cons t front ih => exact ih h.tail

/-- **Every identifier that the lexer finds in a text is a name.** -/
theorem Scanned.isName {ts : List Token} (h : Scanned ts) {t : Token} (ht : t ∈ ts) {name : String}
    (hk : t.kind = .ident name) : IsName name := by
  rcases h with rfl | ⟨offset, line, cs, h⟩
  · cases ht
  · exact isName_iff.2 (isIdentifier_of_mem_scanFrom h ht hk)

/-! ### Tokens that are names -/

/-- Names are closed. -/
theorem IsName.closed {name : String} (h : IsName name) : (Kind.ident name).Closed :=
  closed_ident (isName_iff.1 h).1 (isName_iff.1 h).2

/-- A name is read back in front of anything that cannot stand in a name. -/
theorem IsName.readsBefore {name : String} (h : IsName name) {next : Option Char}
    (hn : next.any Text.isIdentPart = false) : (Kind.ident name).ReadsBefore next :=
  readsBefore_ident (isName_iff.1 h).1 (isName_iff.1 h).2 hn

/-- A name starts with a character that can start an identifier. -/
theorem IsName.exists_cons {name : String} (h : IsName name) :
    ∃ c cs, name.toList = c :: cs ∧ Text.isIdentStart c = true ∧
      ∀ d ∈ cs, Text.isIdentPart d = true := by
  have hi := (isName_iff.1 h).1
  cases hname : name.toList with
  | nil =>
    rw [hname] at hi
    cases hi
  | cons c cs =>
    rw [hname, Text.isIdentifier, Bool.and_eq_true, List.all_eq_true] at hi
    exact ⟨c, cs, rfl, hi.1, hi.2⟩

/-! ### Texts made from names -/

/-- Whether the token neither is a bracket nor separates anything. -/
def Kind.isPlain : Kind → Bool
  | .keyword _ | .ident _ | .int _ | .float _ | .unknown _ => true
  | _ => false

/-- Whether the characters are those of identifiers, the combining dot included. -/
def isNameText (cs : List Char) : Bool :=
  cs.all fun c ↦ Text.isIdentPart c || c == Text.combiningDot

@[simp] theorem isNameText_append (cs ds : List Char) :
    isNameText (cs ++ ds) = (isNameText cs && isNameText ds) := List.all_append

/-- Such characters differ from all others. -/
theorem ne_of_isNameText {cs : List Char} (h : isNameText cs = true) {d : Char}
    (hd : (Text.isIdentPart d || d == Text.combiningDot) = false) : ∀ c ∈ cs, c ≠ d := by
  rintro c hc rfl
  exact Bool.false_ne_true (hd.symm.trans (List.all_eq_true.1 h c hc))

/-- Such characters can stand between double quotes. -/
theorem isQuotable_of_isNameText {cs : List Char} (h : isNameText cs = true) :
    isQuotable cs = true := by
  refine List.all_eq_true.2 fun c hc ↦ ?_
  have hquote := ne_of_isNameText h (d := '"') (by decide) c hc
  have hslash := ne_of_isNameText h (d := '\\') (by decide) c hc
  have hbreak := ne_of_isNameText h (d := '\n') (by decide) c hc
  simp [hquote, hslash, hbreak]

/-- A name has the characters of a name. -/
theorem IsName.isNameText {name : String} (h : IsName name) : isNameText name.toList = true := by
  refine List.all_eq_true.2 fun c hc ↦ ?_
  rw [Text.isIdentPart_of_isIdentifier (isName_iff.1 h).1 c hc, Bool.true_or]

/-- The atoms are tokens without blanks that are read back in front of every terminator. -/
structure NameAtoms (as : List Atom) : Prop where
  /-- They are plain tokens. -/
  plain : ∀ a ∈ as, ∃ k : Kind, a = .token k ∧ k.isPlain = true
  /-- They are closed. -/
  closed : ∀ k ∈ kinds as, k.Closed
  /-- They are read back in front of every terminator. -/
  spelled : ∀ next : Option Char, next.all (· ∈ terminators) = true → Spelled as next

/-- No atoms at all. -/
theorem nameAtoms_nil : NameAtoms [] := ⟨by simp, by simp, by simp⟩

/-- A plain token in front of atoms, if it is read back in front of their first character. -/
theorem NameAtoms.cons {k : Kind} {as : List Atom} (hk : k.isPlain = true) (has : NameAtoms as)
    (h : ∀ next : Option Char, (next.all (· ∈ terminators) = true ∨
      next = (atomsText as).head?) → k.ReadsBefore next) : NameAtoms (.token k :: as) where
  plain a ha := by
    rcases List.mem_cons.1 ha with rfl | ha
    · exact ⟨k, rfl, hk⟩
    · exact has.plain a ha
  closed l hl := by
    rcases List.mem_cons.1 hl with rfl | hl
    · exact fun next hn ↦ h next (.inl hn)
    · exact has.closed l hl
  spelled next hn := by
    refine ⟨h _ ?_, has.spelled next hn⟩
    rw [firstChar]
    cases (atomsText as).head? with
    | none => exact .inl hn
    | some c => exact .inr rfl

/-- A character of a name that starts nothing is a token of its own. -/
theorem readsBefore_unknown_of_isNameText {c : Char} (hi : Text.isIdentStart c = false)
    (hd : c.isDigit = false) (hc : (Text.isIdentPart c || c == Text.combiningDot) = true)
    (next : Option Char) : (Kind.unknown c).ReadsBefore next := by
  have hne : ∀ d, Text.isIdentPart d = false → d ≠ Text.combiningDot → d ≠ c := by
    rintro d hpart hdot rfl
    rw [Bool.or_eq_true, beq_iff_eq, hpart] at hc
    rcases hc with hc | hc
    · cases hc
    · exact hdot hc
  have hquotes : ∀ d ∈ ['"', '\x60', '\'', '\n'],
      Text.isIdentPart d = false ∧ d ≠ Text.combiningDot := by decide
  have hblanks : ∀ d ∈ [' ', '\t', '\r'],
      Text.isIdentPart d = false ∧ d ≠ Text.combiningDot := by decide
  have hheads : ∀ s ∈ symbols, ∀ d ∈ s.text.toList.head?,
      Text.isIdentPart d = false ∧ d ≠ Text.combiningDot := by decide
  refine readsBefore_unknown hi hd ?_ ?_ ?_ next
  · exact fun hmem ↦ hne c (hquotes c hmem).1 (hquotes c hmem).2 rfl
  · exact fun hmem ↦ hne c (hblanks c hmem).1 (hblanks c hmem).2 rfl
  · exact fun s hs hhead ↦ hne c (hheads s hs c hhead).1 (hheads s hs c hhead).2 rfl

/-- No terminator and no combining dot is drawn into a number. -/
theorem not_drawnIntoNumber {c : Char} (hn : isNumberPart c = false)
    (hc : c ∈ terminators ∨ (Text.isIdentPart c || c == Text.combiningDot) = true) :
    drawnIntoNumber c = false := by
  have hsigns : ∀ d ∈ ['.', '+', '-'], d ∉ terminators ∧
      (Text.isIdentPart d || d == Text.combiningDot) = false := by decide
  rw [drawnIntoNumber, hn, Bool.false_or, decide_eq_false_iff_not]
  intro hmem
  rcases hc with hc | hc
  · exact (hsigns c hmem).1 hc
  · rw [(hsigns c hmem).2] at hc
    cases hc

namespace NameAtoms

variable {c : Char} {cs : List Char} {as : List Atom}

/-- A letter and what belongs to its word, in front of the atoms of what is left. -/
theorem cons_word (hi : Text.isIdentStart c = true) (has : NameAtoms as)
    (hast : atomsText as = cs.dropWhile Text.isIdentPart) :
    ∃ bs, atomsText bs = c :: cs ∧ NameAtoms bs := by
  have hword : Text.isIdentifier (String.ofList
      (c :: cs.takeWhile Text.isIdentPart)).toList = true := by
    rw [String.toList_ofList, Text.isIdentifier, hi, Bool.true_and]
    exact List.all_takeWhile ..
  have hhead : (atomsText as).head?.any Text.isIdentPart = false :=
    hast ▸ head?_dropWhile_any _ cs
  refine ⟨.token (wordKind (String.ofList (c :: cs.takeWhile Text.isIdentPart))) :: as,
    ?_, has.cons ?_ ?_⟩
  · rw [atomsText_token, text_wordKind, String.toList_ofList, hast, List.cons_append,
      List.takeWhile_append_dropWhile]
  · unfold wordKind
    cases Keyword.ofText? (String.ofList (c :: cs.takeWhile Text.isIdentPart)) <;> rfl
  · rintro next (hn | rfl)
    · exact readsBefore_wordKind hword (not_isIdentPart_of_terminator hn)
    · exact readsBefore_wordKind hword hhead

/-- A digit and what belongs to its number, in front of the atoms of what is left. -/
theorem cons_number (hd : c.isDigit = true) (hcs : isNameText cs = true) (has : NameAtoms as)
    (hast : atomsText as = cs.dropWhile isNumberPart) :
    ∃ bs, atomsText bs = c :: cs ∧ NameAtoms bs := by
  obtain ⟨float, hfloat⟩ := exists_readsBefore_number hd
    (t := cs.takeWhile isNumberPart) (List.all_eq_true.1 (List.all_takeWhile ..))
  have hhead : (atomsText as).head?.any isNumberPart = false :=
    hast ▸ head?_dropWhile_any _ cs
  have hparts : ∀ t ∈ terminators, isNumberPart t = false := by decide
  refine ⟨.token (numberKind float (c :: cs.takeWhile isNumberPart)) :: as, ?_, has.cons ?_ ?_⟩
  · rw [atomsText_token, text_numberKind, hast, List.cons_append,
      List.takeWhile_append_dropWhile]
  · cases float <;> rfl
  · intro next hn
    refine hfloat next ?_
    cases next with
    | none => rfl
    | some d =>
      rcases hn with hn | hn
      · have hmem : d ∈ terminators := by simpa using hn
        exact not_drawnIntoNumber (hparts d hmem) (.inl hmem)
      · rw [← hn] at hhead
        rw [hast] at hn
        have hmem : d ∈ cs := (List.dropWhile_sublist _).subset (List.mem_of_mem_head? hn.symm)
        exact not_drawnIntoNumber hhead (.inr (List.all_eq_true.1 hcs d hmem))

/-- Another character is a token of its own. -/
theorem cons_unknown (hi : Text.isIdentStart c = false) (hd : c.isDigit = false)
    (hc : (Text.isIdentPart c || c == Text.combiningDot) = true) (has : NameAtoms as)
    (hast : atomsText as = cs) : ∃ bs, atomsText bs = c :: cs ∧ NameAtoms bs :=
  ⟨.token (.unknown c) :: as, by simp [Kind.text, hast], has.cons rfl fun next _ ↦
    readsBefore_unknown_of_isNameText hi hd hc next⟩

end NameAtoms

/-- **A text with the characters of identifiers is cut into plain tokens**, wherever a terminator
follows it. -/
theorem exists_atoms_of_isNameText {cs : List Char} (h : isNameText cs = true) :
    ∃ as, atomsText as = cs ∧ NameAtoms as := by
  -- each token takes a character, so the induction is on the length
  induction hn : cs.length using Nat.strongRecOn generalizing cs with
  | ind n ih =>
    cases cs with
    | nil => exact ⟨[], rfl, nameAtoms_nil⟩
    | cons c cs =>
      rw [isNameText, List.all_cons, Bool.and_eq_true] at h
      obtain ⟨hc, hcs⟩ := h
      have hrest : ∀ p : Char → Bool, ∃ as, atomsText as = cs.dropWhile p ∧ NameAtoms as := by
        intro p
        refine ih _ ?_ (List.all_eq_true.2 fun d hd ↦ List.all_eq_true.1 hcs d ?_) rfl
        · rw [← hn, List.length_cons]
          have hle := (List.dropWhile_sublist p (l := cs)).length_le
          omega
        · exact (List.dropWhile_sublist p).subset hd
      by_cases hi : Text.isIdentStart c = true
      · obtain ⟨as, hast, has⟩ := hrest Text.isIdentPart
        exact has.cons_word hi hast
      · rw [Bool.not_eq_true] at hi
        by_cases hd : c.isDigit = true
        · obtain ⟨as, hast, has⟩ := hrest isNumberPart
          exact has.cons_number hd hcs hast
        · rw [Bool.not_eq_true] at hd
          obtain ⟨as, hast, has⟩ := ih cs.length (by rw [← hn, List.length_cons]; omega) hcs rfl
          exact has.cons_unknown hi hd hc hast

/-! ### Names that are no identifiers -/

/-- **The text would be an identifier, but for a combining dot** after its first letter. It comes
from putting a name that starts with a dotted capital in lower case. -/
def IsBroken (name : String) : Prop :=
  ∃ rest, name.toList = 'i' :: Text.combiningDot :: rest ∧ isNameText rest = true

/-- A name that is derived from the name of a type: an identifier, or a broken one. -/
def IsLabel (name : String) : Prop := IsName name ∨ IsBroken name

/-- A broken name is no identifier. -/
theorem IsBroken.not_isName {name : String} (h : IsBroken name) : ¬ IsName name := by
  intro hname
  obtain ⟨rest, htext, -⟩ := h
  obtain ⟨c, cs, hcs, -, hparts⟩ := hname.exists_cons
  rw [htext] at hcs
  obtain ⟨rfl, rfl⟩ := List.cons.inj hcs
  have hdot := hparts Text.combiningDot (List.mem_cons_self ..)
  revert hdot
  decide

/-- A broken name is cut after its first letter. -/
theorem IsBroken.exists_atoms {name : String} (h : IsBroken name) :
    ∃ as, atomsText (.token (.ident "i") :: .token (.unknown Text.combiningDot) :: as) =
      name.toList ∧
        NameAtoms (.token (.ident "i") :: .token (.unknown Text.combiningDot) :: as) := by
  obtain ⟨rest, htext, hrest⟩ := h
  obtain ⟨as, hast, has⟩ := exists_atoms_of_isNameText hrest
  refine ⟨as, by rw [htext, atomsText_token, atomsText_token, hast]; simp [Kind.text], ?_⟩
  have hdot : NameAtoms (.token (.unknown Text.combiningDot) :: as) := has.cons rfl fun next _ ↦
    readsBefore_unknown_of_isNameText (by decide) (by decide) (by decide) next
  refine hdot.cons rfl fun next hnext ↦ ?_
  refine readsBefore_ident (by decide) (by decide) ?_
  rcases hnext with hnext | rfl
  · exact not_isIdentPart_of_terminator hnext
  · show (some Text.combiningDot).any Text.isIdentPart = false
    decide

/-- Every name that is an identifier or broken is cut into plain tokens. -/
theorem IsLabel.exists_atoms {name : String} (h : IsLabel name) :
    ∃ as, atomsText as = name.toList ∧ NameAtoms as := by
  rcases h with h | h
  · refine ⟨[.token (.ident name)], by simp [Kind.text], nameAtoms_nil.cons rfl ?_⟩
    rintro next (hnext | rfl)
    · exact h.closed next hnext
    · exact h.closed _ rfl
  · obtain ⟨as, hast, has⟩ := h.exists_atoms
    exact ⟨_, hast, has⟩

/-- Such a name starts with a letter. -/
theorem IsLabel.exists_head {name : String} (h : IsLabel name) :
    ∃ c, name.toList.head? = some c ∧ Text.isIdentStart c = true := by
  rcases h with h | ⟨rest, htext, -⟩
  · obtain ⟨c, cs, hcs, hc, -⟩ := h.exists_cons
    exact ⟨c, by rw [hcs]; rfl, hc⟩
  · exact ⟨'i', by rw [htext]; rfl, by decide⟩

end GoDecorator.Token
