import GoDecorator.Names
import GoDecorator.Proofs.Shape.Parts

/-!
# What derived names look like

A name that is made from a type is an identifier in all but one case: a type whose name starts with
the dotted capital `I` gives a name whose first letter is followed by a combining dot, and that is
no identifier. So derived names are **labels**, and nothing done to a label afterwards — a plural, a
suffix, a number — mends a broken name or breaks another one.

## From a type to a name

A name is derived in two steps: the name that the type itself suggests, with a small first letter or
in the plural (`Shape.baseName`), and the escape from reserved words. The lower-case form of an
identifier can be a keyword, and so can its plural; only the last step, `escapeReserved`, rules that
out. Until then a name is a *stem* (`IsStem`), of which no more is asked than that its characters
are those of an identifier, or that it is broken.

Which of the two it is depends on a single name, that of the type that is left without pointers,
slices and keys of maps (`Shape.eponym?`). **The name is an identifier exactly if that one has no
dotted capital in front** (`Shape.IsNamedPlainly`). Where no named type is left, the name is one of
a few fixed ones or the plural of one.

## From a name to the one that is handed out

`Names.allocate` hands out a name or puts a number behind it. `allocate_cases` says just that, and
from it the two properties of a name pass to the one that is handed out.

Without a dotted capital there are only identifiers (`Shape.isName_variableName`).
-/

namespace GoDecorator

open Token

/-! ### Adding a suffix -/

/-- The letters of keywords are small. -/
theorem isLower_of_ofText? {word : String} {k : Keyword} (h : Keyword.ofText? word = some k) :
    ∀ c ∈ word.toList, c.isLower = true := by
  have hall : ∀ k ∈ Keyword.all, ∀ c ∈ k.text.toList, c.isLower = true := by decide
  have hk : k.text = word := by simpa using List.find?_some h
  rw [← hk]
  exact hall k (List.mem_of_find?_eq_some h)

/-- An identifier with a suffix is no keyword if not all of the suffix is in small letters. -/
theorem isName_append {base suffix : String} (h : Text.isIdentifier base.toList = true)
    (hs : ∀ c ∈ suffix.toList, Text.isIdentPart c = true)
    (hc : ∃ c ∈ suffix.toList, c.isLower = false) : IsName (base ++ suffix) := by
  refine isName_iff.2 ⟨?_, ?_⟩
  · rw [String.toList_append]
    exact Text.isIdentifier_append h hs
  · obtain ⟨c, hmem, hc⟩ := hc
    refine Option.eq_none_iff_forall_ne_some.2 fun k hk ↦ ?_
    have hlower := isLower_of_ofText? hk c (by simp [hmem])
    rw [hc] at hlower
    cases hlower

theorem Token.IsBroken.append {base suffix : String} (h : IsBroken base)
    (hs : ∀ c ∈ suffix.toList, Text.isIdentPart c = true) : IsBroken (base ++ suffix) := by
  obtain ⟨rest, hbase, hrest⟩ := h
  refine ⟨rest ++ suffix.toList, by simp [hbase], ?_⟩
  rw [isNameText, List.all_append, Bool.and_eq_true]
  refine ⟨hrest, List.all_eq_true.2 fun c hc ↦ ?_⟩
  rw [hs c hc]
  rfl

theorem Token.IsLabel.append {base suffix : String} (h : IsLabel base)
    (hs : ∀ c ∈ suffix.toList, Text.isIdentPart c = true)
    (hc : ∃ c ∈ suffix.toList, c.isLower = false) : IsLabel (base ++ suffix) := by
  rcases h with h | h
  · exact .inl (isName_append (isName_iff.1 h).1 hs hc)
  · exact .inr (h.append hs)

/-- A number consists of digits, and there is at least one. -/
theorem isDigit_of_mem_toString (k : Nat) :
    (∀ c ∈ (toString k).toList, c.isDigit = true) ∧ ∃ c, c ∈ (toString k).toList := by
  rw [Nat.toString_eq_repr, Nat.toList_repr]
  refine ⟨fun c hc ↦ Nat.isDigit_of_mem_toDigits (by decide) (by decide) hc, ?_⟩
  exact List.exists_mem_of_ne_nil _ Nat.toDigits_ne_nil

/-- A number has only characters that can stand in a name. -/
theorem isIdentPart_toString (k : Nat) :
    (∀ c ∈ (toString k).toList, Text.isIdentPart c = true) ∧
      ∃ c ∈ (toString k).toList, c.isLower = false := by
  obtain ⟨hdigits, c, hc⟩ := isDigit_of_mem_toString k
  refine ⟨fun d hd ↦ Text.isIdentPart_of_isDigit (hdigits d hd), c, hc, ?_⟩
  have hdigit := hdigits c hc
  simp only [Char.isDigit, Bool.and_eq_true, decide_eq_true_eq] at hdigit
  rw [← Bool.not_eq_true]
  intro hlower
  have hle : 'a'.val ≤ c.val := of_decide_eq_true (Bool.and_eq_true_iff.1 hlower).1
  exact absurd (UInt32.le_trans hle hdigit.2) (by decide)

/-- A name with a number behind it is a name. -/
theorem isName_numbered {base : String} (h : IsName base) (k : Nat) : IsName (numbered base k) :=
  isName_append (isName_iff.1 h).1 (isIdentPart_toString k).1 (isIdentPart_toString k).2

/-- A label with a number behind it is a label. -/
theorem isLabel_numbered {base : String} (h : IsLabel base) (k : Nat) : IsLabel (numbered base k) :=
  h.append (isIdentPart_toString k).1 (isIdentPart_toString k).2

/-! ### Handing out names -/

namespace Names

/-- A name is handed out as it is or with a number. -/
theorem allocate_cases (names : Names) (base : String) :
    (names.allocate base).1 = base ∨ ∃ k, (names.allocate base).1 = numbered base k := by
  by_cases h : base ∈ names.taken
  · exact .inr ⟨_, by simp only [allocate, reserve, h, if_true]; rfl⟩
  · exact .inl (by rw [allocate_of_not_mem names h])

theorem isName_allocate (names : Names) {base : String} (h : IsName base) :
    IsName (names.allocate base).1 := by
  rcases names.allocate_cases base with hbase | ⟨k, hk⟩
  · rw [hbase]
    exact h
  · rw [hk]
    exact isName_numbered h k

/-- **The name that is handed out is a label** if the one asked for is. -/
theorem isLabel_allocate (names : Names) {base : String} (h : IsLabel base) :
    IsLabel (names.allocate base).1 := by
  rcases names.allocate_cases base with hbase | ⟨k, hk⟩
  · rw [hbase]
    exact h
  · rw [hk]
    exact isLabel_numbered h k

/-- A name that is broken stays so when it is handed out. -/
theorem isBroken_allocate (names : Names) {base : String} (h : IsBroken base) :
    IsBroken (names.allocate base).1 := by
  rcases names.allocate_cases base with hbase | ⟨k, hk⟩
  · rw [hbase]
    exact h
  · rw [hk]
    exact h.append (isIdentPart_toString k).1

end Names

/-! ### Stems -/

/-- The text has the characters of an identifier, or is broken. Unlike a label it may be a
keyword. -/
def IsStem (name : String) : Prop := Text.isIdentifier name.toList = true ∨ IsBroken name

/-- A name that starts with the dotted capital is broken when its first letter is made small. -/
theorem isBroken_lowerFirst {name : String} {cs : List Char}
    (hname : name.toList = Text.dottedCapital :: cs)
    (hcs : ∀ c ∈ cs, Text.isIdentPart c = true) : IsBroken (lowerFirst name) := by
  refine ⟨cs, ?_, List.all_eq_true.2 fun d hd ↦ ?_⟩
  · rw [lowerFirst, hname, String.toList_ofList, Text.lowerFirst, Text.lowercase_dottedCapital]
    rfl
  · rw [hcs d hd]
    rfl

/-- A name with a small first letter has the characters of an identifier unless it started with the
dotted capital. -/
theorem isIdentifier_lowerFirst {name : String} (h : IsName name)
    (hdot : name.toList.head? ≠ some Text.dottedCapital) :
    Text.isIdentifier (lowerFirst name).toList = true := by
  obtain ⟨c, cs, hname, hc, hcs⟩ := h.exists_cons
  obtain ⟨d, hd, hstart⟩ := Text.lowercase_of_isIdentStart hc fun hc ↦ hdot (by rw [hname, hc]; rfl)
  rw [lowerFirst, hname, String.toList_ofList, Text.lowerFirst, hd]
  show (Text.isIdentStart d && cs.all Text.isIdentPart) = true
  rw [hstart, Bool.true_and, List.all_eq_true]
  exact hcs

theorem isIdentifier_valueName (p : Primitive) : Text.isIdentifier p.valueName.toList = true := by
  cases p <;> decide

theorem isIdentifier_fixed :
    ∀ n ∈ ["fn", "ctx", "thing", "ch", "signal"], Text.isIdentifier n.toList = true := by
  decide

theorem isIdentifier_pluralize {name : String} (h : Text.isIdentifier name.toList = true) :
    Text.isIdentifier (pluralize name).toList = true := by
  unfold pluralize
  split
  · exact h
  · rw [String.toList_append]
    exact Text.isIdentifier_append h (by decide)

theorem Token.IsBroken.pluralize {name : String} (h : IsBroken name) :
    IsBroken (pluralize name) := by
  unfold GoDecorator.pluralize
  split
  · exact h
  · exact h.append (by decide)

/-! ### The type that gives the name

A name is made from at most one of the names in a type: pointers and collections take the name of
what they point to or hold. Whether it is an identifier depends on that name alone. -/

/-- The text does not start with the dotted capital. -/
def IsUndotted (text : String) : Prop := text.toList.head? ≠ some Text.dottedCapital

instance (text : String) : Decidable (IsUndotted text) :=
  inferInstanceAs (Decidable (text.toList.head? ≠ some Text.dottedCapital))

/-- The name of the type after which a value of the type is named, if there is one. -/
def Shape.eponym? : Shape → Option String
  | .pointer s => s.eponym?
  | .named _ n => some n
  | .slice s => s.eponym?
  | .map _ value => value.eponym?
  | _ => none

/-- The type after which a value is named does not start with the dotted capital. -/
def Shape.IsNamedPlainly (s : Shape) : Prop := ∀ n ∈ s.eponym?, GoDecorator.IsUndotted n

instance (s : Shape) : Decidable s.IsNamedPlainly :=
  inferInstanceAs (Decidable (∀ n ∈ s.eponym?, GoDecorator.IsUndotted n))

theorem Shape.exists_of_not_isNamedPlainly {s : Shape} (h : ¬ s.IsNamedPlainly) :
    ∃ n, s.eponym? = some n ∧ ¬ GoDecorator.IsUndotted n := by
  simpa [IsNamedPlainly] using h

/-- The name for a value has the characters of an identifier. -/
theorem Shape.isIdentifier_baseName {s : Shape} (h : s.Proper) (hs : s.IsNamedPlainly) :
    Text.isIdentifier s.baseName.toList = true := by
  induction s using Shape.induct with
  | pointer s ih => exact ih (everywhere_pointer.1 h).2 hs
  | named q n => exact isIdentifier_lowerFirst (everywhere_named.1 h).2 (hs n rfl)
  | slice s ih => exact isIdentifier_pluralize (ih (everywhere_slice.1 h).2 hs)
  | map k v _ ih => exact isIdentifier_pluralize (ih (everywhere_map.1 h).2.2 hs)
  | primitive p => exact isIdentifier_valueName p
  | function _ _ _ _ => exact isIdentifier_fixed "fn" (by simp)
  | context => exact isIdentifier_fixed "ctx" (by simp)
  | any => exact isIdentifier_fixed "thing" (by simp)
  | channel _ _ _ => exact isIdentifier_fixed "ch" (by simp)
  | emptyStruct => exact isIdentifier_fixed "signal" (by simp)

/-- A value that is named after a type with a dotted capital has a broken name. -/
theorem Shape.isBroken_baseName {s : Shape} (h : s.Proper) {n : String} (hn : s.eponym? = some n)
    (hdot : ¬ GoDecorator.IsUndotted n) : IsBroken s.baseName := by
  induction s using Shape.induct with
  | pointer s ih => exact ih (everywhere_pointer.1 h).2 hn
  | named q m =>
    obtain rfl := Option.some.inj hn
    obtain ⟨c, cs, hname, -, hcs⟩ := (everywhere_named.1 h).2.exists_cons
    have hhead : m.toList.head? = some Text.dottedCapital := Classical.not_not.1 hdot
    rw [hname] at hhead
    exact isBroken_lowerFirst (Option.some.inj hhead ▸ hname) hcs
  | slice s ih => exact (ih (everywhere_slice.1 h).2 hn).pluralize
  | map k v _ ih => exact (ih (everywhere_map.1 h).2.2 hn).pluralize
  | _ => cases hn

/-- **The name for a value is a stem.** -/
theorem Shape.isStem_baseName {s : Shape} (h : s.Proper) : IsStem s.baseName := by
  by_cases hs : s.IsNamedPlainly
  · exact .inl (isIdentifier_baseName h hs)
  · obtain ⟨n, hn, hdot⟩ := exists_of_not_isNamedPlainly hs
    exact .inr (isBroken_baseName h hn hdot)

/-- A text with the characters of an identifier is one if it is no reserved word. -/
theorem isName_escapeReserved {name : String} (h : Text.isIdentifier name.toList = true) :
    IsName (escapeReserved name) := by
  have hwords : ∀ word ∈ reservedWords, IsName (word ++ "Val") := by decide
  have hkeywords : ∀ k ∈ Keyword.all, k.text ∈ reservedWords := by decide
  unfold escapeReserved
  split
  · rename_i hmem
    exact hwords name hmem
  · rename_i hmem
    refine isName_iff.2 ⟨h, Option.eq_none_iff_forall_ne_some.2 fun k hk ↦ ?_⟩
    have htext : k.text = name := by simpa using List.find?_some hk
    exact hmem (htext ▸ hkeywords k (List.mem_of_find?_eq_some hk))

/-- A broken name is no reserved word, and stays broken. -/
theorem isBroken_escapeReserved {name : String} (h : IsBroken name) :
    IsBroken (escapeReserved name) := by
  have hwords : ∀ word ∈ reservedWords, IsName (word ++ "Val") := by decide
  unfold escapeReserved
  split
  · rename_i hmem
    exact absurd (hwords name hmem) (h.append (by decide)).not_isName
  · exact h

/-- **The name for a variable of a type is a label.** -/
theorem Shape.isLabel_variableName {s : Shape} (h : s.Proper) : IsLabel s.variableName :=
  (isStem_baseName h).imp isName_escapeReserved isBroken_escapeReserved

/-- A variable that is named after a type with a dotted capital has a broken name. -/
theorem Shape.isBroken_variableName {s : Shape} (h : s.Proper) (hs : ¬ s.IsNamedPlainly) :
    IsBroken s.variableName := by
  obtain ⟨n, hn, hdot⟩ := exists_of_not_isNamedPlainly hs
  exact isBroken_escapeReserved (isBroken_baseName h hn hdot)

/-! ### Names without the dotted capital -/

/-- No type in it has a name that starts with the dotted capital. -/
def Shape.IsUndotted (s : Shape) : Prop :=
  s.Everywhere fun
    | .named _ n => GoDecorator.IsUndotted n
    | _ => True

theorem Shape.IsUndotted.isNamedPlainly {s : Shape} (h : s.IsUndotted) : s.IsNamedPlainly := by
  induction s using Shape.induct with
  | pointer s ih => exact ih (everywhere_pointer.1 h).2
  | named q n =>
    intro m hm
    obtain rfl := Option.some.inj hm
    exact everywhere_named.1 h
  | slice s ih => exact ih (everywhere_slice.1 h).2
  | map k v _ ih => exact ih (everywhere_map.1 h).2.2
  | _ => exact fun m hm ↦ nomatch hm

/-- **The name for a variable of a type without dotted capitals is an identifier.** -/
theorem Shape.isName_variableName {s : Shape} (h : s.Proper) (hu : s.IsUndotted) :
    IsName s.variableName :=
  isName_escapeReserved (isIdentifier_baseName h hu.isNamedPlainly)

end GoDecorator
