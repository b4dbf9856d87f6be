import GoDecorator.Text.Lowering
import GoDecorator.Text.Numeric

/-!
# The characters of identifiers

Which characters an identifier is made of, as far as the lexer and the derived names need it.

Two facts carry everything else. A character of an identifier is none of the blanks, brackets and
operators of the language, because those are outside the tables. And putting the first character of
an identifier into lower case gives a letter again, with **one exception**: the capital `I` with a
dot above (`dottedCapital`) becomes an `i` and a combining dot, which belongs to no identifier.

The second fact is a statement about two tables. It is reduced to one comparison for each shift of
`caseShifts`: the lower-case forms of a stretch lie in a single range of `alphabeticTable`
(`caseShifts_alphabetic`).
-/

namespace GoDecorator.Text

/-! ### Checking the characters of a text

A statement about the characters of a list is decided by going through the list. A library that can
decide statements about all characters must not be asked first, so these come before it. -/

instance (priority := 1100) decidableForallMem (cs : List Char) (P : Char → Prop)
    [DecidablePred P] : Decidable (∀ c ∈ cs, P c) :=
  List.decidableBAll P cs

instance (priority := 1100) decidableForallMemOption (o : Option Char) (P : Char → Prop)
    [DecidablePred P] : Decidable (∀ c ∈ o, P c) :=
  Option.decidableForallMem o

/-! ### Membership in tables -/

/-- Whether the ranges start one after the other. -/
def increasing : List CharRange → Bool
  | r :: s :: rs => decide (r.first ≤ s.first) && increasing (s :: rs)
  | _ => true

/-- The first range of an increasing table starts before all others. -/
theorem first_le_of_increasing {r : CharRange} {rs : List CharRange}
    (h : increasing (r :: rs) = true) : ∀ s ∈ rs, r.first ≤ s.first := by
  induction rs generalizing r with
  | nil => simp
  | cons t rs ih =>
    simp only [increasing, Bool.and_eq_true, decide_eq_true_eq] at h
    intro s hs
    rcases List.mem_cons.1 hs with rfl | hs
    · exact h.1
    · exact Nat.le_trans h.1 (ih h.2 s hs)

/-- **The search in an increasing table finds every member of a range.** -/
theorem inTable_of_contains {rs : List CharRange} (h : increasing rs = true) {r : CharRange}
    (hr : r ∈ rs) {n : Nat} (hn : r.contains n = true) : inTable rs n = true := by
  induction rs with
  | nil => simp at hr
  | cons s rs ih =>
    have hfirst : r.first ≤ n := by
      simp only [CharRange.contains, Bool.and_eq_true, decide_eq_true_eq] at hn
      exact hn.1.1
    have htail : increasing rs = true := by
      cases rs with
      | nil => rfl
      | cons t rs => exact (Bool.and_eq_true_iff.1 h).2
    rw [inTable]
    rcases List.mem_cons.1 hr with rfl | hr
    · rw [if_neg (Nat.not_lt.2 hfirst), hn, Bool.true_or]
    · have hle := first_le_of_increasing h r hr
      rw [if_neg (by omega), ih htail hr, Bool.or_true]

theorem increasing_alphabeticTable : increasing alphabeticTable = true := by decide +kernel

/-! ### Characters outside identifiers -/

/-- A character that starts an identifier differs from every character that starts none. -/
theorem ne_of_isIdentStart {c d : Char} (hc : isIdentStart c = true) (hd : isIdentStart d = false) :
    c ≠ d := by
  rintro rfl
  rw [hc] at hd
  cases hd

/-- An identifier is not empty, and all its characters can stand inside one. -/
theorem isIdentPart_of_isIdentifier {cs : List Char} (h : isIdentifier cs = true) :
    ∀ c ∈ cs, isIdentPart c = true := by
  cases cs with
  | nil => simp [isIdentifier] at h
  | cons c cs =>
    simp only [isIdentifier, Bool.and_eq_true, List.all_eq_true] at h
    intro d hd
    rcases List.mem_cons.1 hd with rfl | hd
    · exact isIdentPart_of_isIdentStart h.1
    · exact h.2 d hd

/-- An identifier goes on to be one when characters of identifiers are added at its end. -/
theorem isIdentifier_append {cs ds : List Char} (hc : isIdentifier cs = true)
    (hd : ∀ d ∈ ds, isIdentPart d = true) : isIdentifier (cs ++ ds) = true := by
  cases cs with
  | nil => simp [isIdentifier] at hc
  | cons c cs =>
    simp only [isIdentifier, Bool.and_eq_true, List.all_eq_true] at hc
    simp only [List.cons_append, isIdentifier, List.all_append, Bool.and_eq_true, List.all_eq_true]
    exact ⟨hc.1, hc.2, hd⟩

/-- The decimal digits can stand inside an identifier. -/
theorem isIdentPart_of_isDigit {c : Char} (h : c.isDigit = true) : isIdentPart c = true := by
  have hrange : 0x30 ≤ c.toNat ∧ c.toNat ≤ 0x39 := by
    simp only [Char.isDigit, Bool.and_eq_true, decide_eq_true_eq] at h
    exact ⟨h.1, h.2⟩
  have hall : ∀ n, 0x30 ≤ n → n ≤ 0x39 → inTable numericTable n = true := by
    intro n h₁ h₂
    rw [numericTable, inTable, if_neg (by simp; omega)]
    simp [CharRange.contains, h₁, h₂, Nat.mod_one]
  have hnum : isNumeric c = true := hall c.toNat hrange.1 hrange.2
  simp [isIdentPart, isAlphanumeric, hnum]

/-! ### The lower-case form of a first character -/

/-- The capital `I` with a dot above, whose lower-case form is no identifier. -/
def dottedCapital : Char := '\u0130'

/-- The combining dot above. -/
def combiningDot : Char := '\u0307'

/-- Whether one range of the table has all code points from `low` to `high`. -/
def covers : List CharRange → Nat → Nat → Bool
  | [], _, _ => false
  | r :: rs, low, high =>
    bif r.last.blt low then covers rs low high
    else r.step == 1 && r.first.ble low && high.ble r.last

theorem exists_contains_of_covers {rs : List CharRange} {low high n : Nat}
    (h : covers rs low high = true) (hlow : low ≤ n) (hhigh : n ≤ high) :
    ∃ r ∈ rs, r.contains n = true := by
  induction rs with
  | nil => simp [covers] at h
  | cons r rs ih =>
    rw [covers] at h
    cases hr : r.last.blt low with
    | true =>
      rw [hr] at h
      obtain ⟨s, hs, hn⟩ := ih h
      exact ⟨s, List.mem_cons_of_mem _ hs, hn⟩
    | false =>
      rw [hr] at h
      simp only [cond_false, Bool.and_eq_true, beq_iff_eq, Nat.ble_eq] at h
      refine ⟨r, by simp, ?_⟩
      simp only [CharRange.contains, h.1.1, Nat.mod_one, BEq.rfl, Bool.and_true,
        Bool.and_eq_true, decide_eq_true_eq]
      omega

/-- The lower-case forms of a stretch of characters lie in one range of letters. -/
theorem caseShifts_alphabetic :
    (caseShifts.all fun s ↦
      covers alphabeticTable s.target (s.target + (s.range.last - s.range.first))) = true := by
  decide +kernel

/-- No lower-case form lies among the surrogates or beyond the last character. -/
theorem caseShifts_valid :
    (caseShifts.all fun s ↦
      decide (s.target + (s.range.last - s.range.first) < 0xD800) ||
        (decide (0xDFFF < s.target) &&
          decide (s.target + (s.range.last - s.range.first) < 0x110000))) = true := by
  decide

/-- Shifting a code point leaves it as it is, or takes it along one of the shifts. -/
theorem shiftDown_cases (ss : List CaseShift) (n : Nat) :
    shiftDown ss n = n ∨
      ∃ s ∈ ss, s.range.contains n = true ∧ shiftDown ss n = s.target + (n - s.range.first) := by
  induction ss with
  | nil => exact .inl rfl
  | cons s ss ih =>
    rw [shiftDown]
    split
    · exact .inl rfl
    · split
      · exact .inr ⟨s, by simp, by assumption, rfl⟩
      · rcases ih with ih | ⟨t, ht, hn, he⟩
        · exact .inl ih
        · exact .inr ⟨t, List.mem_cons_of_mem _ ht, hn, he⟩

/-- **The lower-case form of a letter is a letter**, read on code points. -/
theorem inTable_shiftDown {n : Nat} (h : inTable alphabeticTable n = true) :
    inTable alphabeticTable (shiftDown caseShifts n) = true := by
  rcases shiftDown_cases caseShifts n with he | ⟨s, hs, hn, he⟩
  · rw [he]
    exact h
  · have hcovers := List.all_eq_true.1 caseShifts_alphabetic s hs
    simp only [CharRange.contains, Bool.and_eq_true, decide_eq_true_eq] at hn
    obtain ⟨r, hr, hin⟩ := exists_contains_of_covers hcovers
      (Nat.le_add_right s.target (n - s.range.first)) (by omega)
    rw [he]
    exact inTable_of_contains increasing_alphabeticTable hr hin

/-- The code point of a lower-case form is that of a character. -/
theorem isValidChar_shiftDown (c : Char) : (shiftDown caseShifts c.toNat).isValidChar := by
  rcases shiftDown_cases caseShifts c.toNat with he | ⟨s, hs, hn, he⟩
  · rw [he]
    exact c.valid
  · have hall := List.all_eq_true.1 caseShifts_valid s hs
    simp only [Bool.or_eq_true, Bool.and_eq_true, decide_eq_true_eq] at hall
    simp only [CharRange.contains, Bool.and_eq_true, decide_eq_true_eq] at hn
    rw [he, Nat.isValidChar]
    omega

theorem toNat_ofNat_of_valid {n : Nat} (h : n.isValidChar) : (Char.ofNat n).toNat = n := by
  rw [Char.ofNat, dif_pos h]
  rfl

/-- **Putting the first character of an identifier into lower case gives a first character of an
identifier**, unless it is the dotted capital. -/
theorem lowercase_of_isIdentStart {c : Char} (h : isIdentStart c = true) (hc : c ≠ dottedCapital) :
    ∃ d, lowercase c = [d] ∧ isIdentStart d = true := by
  have hne : c.toNat ≠ 0x130 := by
    intro heq
    apply hc
    rw [← Char.ofNat_toNat c, heq]
    decide
  refine ⟨Char.ofNat (shiftDown caseShifts c.toNat), by rw [lowercase, if_neg hne], ?_⟩
  rw [isIdentStart, Bool.or_eq_true] at h ⊢
  rcases h with h | h
  · left
    rw [isAlphabetic, toNat_ofNat_of_valid (isValidChar_shiftDown c)]
    exact inTable_shiftDown h
  · right
    obtain rfl := beq_iff_eq.1 h
    decide

theorem lowercase_dottedCapital : lowercase dottedCapital = ['i', combiningDot] := by decide

/-- The lower-case form of a character of an identifier is made of such characters, apart from the
combining dot. -/
theorem isIdentPart_of_mem_lowercase {c d : Char} (h : isIdentPart c = true)
    (hd : d ∈ lowercase c) : (isIdentPart d || d == combiningDot) = true := by
  unfold lowercase at hd
  split at hd
  · revert d
    decide
  · obtain rfl := List.mem_singleton.1 hd
    rcases shiftDown_cases caseShifts c.toNat with he | ⟨s, hs, hn, he⟩
    · rw [he, Char.ofNat_toNat, h, Bool.true_or]
    · -- A character that is shifted becomes a letter, whether it was one or not.
      have hcovers := List.all_eq_true.1 caseShifts_alphabetic s hs
      simp only [CharRange.contains, Bool.and_eq_true, decide_eq_true_eq] at hn
      obtain ⟨r, hr, hin⟩ := exists_contains_of_covers hcovers
        (Nat.le_add_right s.target (c.toNat - s.range.first)) (by omega)
      have hletter := inTable_of_contains increasing_alphabeticTable hr hin
      rw [← he, ← toNat_ofNat_of_valid (isValidChar_shiftDown c)] at hletter
      rw [isIdentPart, isAlphanumeric, isAlphabetic, hletter]
      rfl

end GoDecorator.Text
