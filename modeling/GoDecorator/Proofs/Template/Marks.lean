import GoDecorator.Proofs.Decl.Bodies
import GoDecorator.Proofs.Template.Filling

/-!
# Templates of function bodies

The body of a function is written by a template, and its tokens can only be told once the holes are
filled in. What can be told before is where the tokens of the literal text end, as long as something
is known of the values: that a value is one name, say, or a phrase (`Need`).

## The test

`marksOf` cuts the signs of a template into tokens, blanks and holes. Nothing is proved about how it
does so. Instead `checks` tests the marks it finds: that every token is read back in front of what
may follow it, that brackets match and colons are tight. The test is run once for each template,
together with one that the marks spell it.

What may follow a token is told by the next mark (`Lead`): a character, the start of a value, or
anything where a value may be empty. A value can be put in front of a mark if the mark starts with a
character that ends values of its kind (`holeFits`).

## What a template that passes is good for

If a template passes, and the values are of the kinds that were asked for, then **the filled-in text
has the atoms of a function body** (`exists_body_of_checks`). The atoms of the values come from
`Suits.exists_atoms`, one case for each kind, and each part of the test becomes a statement about
the filled-in marks: `spelled_marks`, `tightFrom_marks` and `depthAfter_marks`.
-/

namespace GoDecorator.Template

open Token

/-! ### Marks -/

/-- What may be put into a hole. -/
inductive Need where
  /-- One identifier. -/
  | name
  /-- A name that may be broken. -/
  | label
  /-- A phrase, which may be empty. -/
  | phrase
  /-- The characters of a string. -/
  | quotable
deriving DecidableEq, Repr

/-- A part of a template of a body. -/
inductive Mark where
  | blank (char : Char)
  | token (kind : Kind)
  /-- A hole for one or more tokens. -/
  | hole (key : String) (need : Need)
  /-- A string literal that may start with the value of a name. -/
  | quote (key : Option String) (tail : String)
deriving DecidableEq, Repr

/-- The signs of a mark. -/
def Mark.signs : Mark → List Sign
  | .blank c => [.char c]
  | .token k => charSigns k.text.toList
  | .hole key _ => [.hole key]
  | .quote key tail => .char '"' :: (key.toList.map .hole ++ charSigns tail.toList ++ [.char '"'])

/-- The characters that signs start with. -/
def leadingChars : List Sign → List Char
  | .char c :: ss => c :: leadingChars ss
  | _ => []

/-- The marks of the signs of a template, as far as the budget goes. -/
def marksOf (needs : List (String × Need)) : Nat → List Sign → List Mark
  | budget + 1, .hole key :: ss =>
    .hole key ((needs.lookup key).getD .phrase) :: marksOf needs budget ss
  | budget + 1, .char c :: ss =>
    if c = ' ' ∨ c = '\t' then .blank c :: marksOf needs budget ss
    else if c = '"' then
      let (key, ss) := match ss with
        | .hole key :: ss => (some key, ss)
        | ss => (none, ss)
      let tail := (leadingChars ss).takeWhile (· ≠ '"')
      .quote key (String.ofList tail) :: marksOf needs budget (ss.drop (tail.length + 1))
    else
      match lexeme c (leadingChars ss) with
      | some lx => .token lx.kind :: marksOf needs budget (ss.drop (lx.text.length - 1))
      | none => []
  | _, _ => []

/-! ### The test -/

/-- What is known of the first character of a text. -/
inductive Lead where
  | char (char : Char)
  /-- A character that can start an identifier. -/
  | letter
  | unknown
deriving DecidableEq, Repr

/-- What is known of the first character of marks, where a closing brace follows them. -/
def lead : List Mark → Lead
  | [] => .char '\x7d'
  | .blank c :: _ => .char c
  | .token k :: _ => (k.text.toList.head?.map .char).getD .unknown
  | .hole _ .name :: _ | .hole _ .label :: _ => .letter
  | .hole _ .phrase :: _ | .hole _ .quotable :: _ => .unknown
  | .quote _ _ :: _ => .char '"'

/-- Whether a token is read back in front of what is known to follow it. -/
def tokenFits (k : Kind) : Lead → Bool
  | .char c => k.endsBefore (some c)
  | .letter => decide (k ∈ symbols) || k == .newline
  | .unknown => k.isLoose || k == .newline

/-- Whether what is put into a hole is read back in front of what is known to follow it. -/
def holeFits : Need → Lead → Bool
  | .name, .char c => !Text.isIdentPart c
  | .label, .char c | .phrase, .char c => decide (c ∈ terminators)
  | _, _ => false

/-- Whether each mark is read back in front of the marks after it. -/
def fits : List Mark → Bool
  | [] => true
  | .blank c :: ms => (c == ' ' || c == '\t') && fits ms
  | .token k :: ms => tokenFits k (lead ms) && fits ms
  | .hole _ need :: ms => holeFits need (lead ms) && fits ms
  | .quote _ tail :: ms => isQuotable tail.toList && fits ms

/-- Whether every colon touches the mark before it and not the one after it. -/
def tightMarks (colon touching : Bool) : List Mark → Bool
  | [] => true
  | .blank _ :: ms => tightMarks false false ms
  | .token k :: ms =>
    if k = .newline then tightMarks false false ms
    else !colon && (k != .colon || touching) && tightMarks (k == .colon) true ms
  | .hole _ need :: ms => !colon && tightMarks false (need == .name) ms
  | .quote _ _ :: ms => !colon && tightMarks false true ms

/-- The tokens of the literal text. -/
def markKinds (ms : List Mark) : List Kind :=
  ms.filterMap fun
    | .token k => some k
    | _ => none

/-- Whether each hole is listed with what it needs. -/
def covers (needs : List (String × Need)) (ms : List Mark) : Bool :=
  ms.all fun
    | .hole key need => decide ((key, need) ∈ needs ∧ need ≠ .quotable)
    | .quote (some key) _ => decide ((key, Need.quotable) ∈ needs)
    | _ => true

/-- Whether the marks are those of a function body. -/
def checks (needs : List (String × Need)) (ms : List Mark) : Bool :=
  fits ms && tightMarks false false ms && decide (depthAfter 0 (markKinds ms) = some 0) &&
    covers needs ms

/-! ### Filling in marks -/

/-- What may be put into a hole with the given need. -/
def Suits : Need → String → Prop
  | .name, value => IsName value
  | .label, value => IsLabel value
  | .phrase, value => IsPhrase value
  | .quotable, value => isQuotable value.toList = true

/-- The atoms of the value of a hole. -/
structure HoleAtoms (need : Need) (value : String) (as : List Atom) : Prop where
  /-- They spell the value. -/
  text : atomsText as = value.toList
  /-- They are a phrase. -/
  phrase : Phrase as
  /-- A name is one token. -/
  name : need = .name → IsName value ∧ as = [.token (.ident value)]
  /-- A name that may be broken starts with a letter all the same. -/
  label : need = .label → ∃ c, value.toList.head? = some c ∧ Text.isIdentStart c = true

theorem Suits.exists_atoms {need : Need} {value : String} (h : Suits need value)
    (hq : need ≠ .quotable) : ∃ as, HoleAtoms need value as := by
  cases need with
  | name =>
    exact ⟨[.token (.ident value)], by simp [Kind.text], IsName.phrase h, fun _ ↦ ⟨h, rfl⟩, by simp⟩
  | label =>
    obtain ⟨as, htext, has⟩ := IsLabel.exists_atoms h
    exact ⟨as, htext, has.phrase, by simp, fun _ ↦ IsLabel.exists_head h⟩
  | phrase =>
    obtain ⟨as, htext, has⟩ := h
    exact ⟨as, htext, has, by simp, by simp⟩
  | quotable => exact absurd rfl hq

/-- The atoms of a mark, where `atoms` are those of the values of holes. -/
def Mark.atoms (value : String → String) (atoms : String → Need → List Atom) : Mark → List Atom
  | .blank c => [.blank c]
  | .token k => [.token k]
  | .hole key need => atoms key need
  | .quote key tail => [.token (.str ("\"" ++ ((key.map value).getD "" ++ tail) ++ "\""))]

/-- The values are of the kinds that the mark asks for. -/
def Mark.Filled (value : String → String) (atoms : String → Need → List Atom) : Mark → Prop
  | .hole key need => HoleAtoms need (value key) (atoms key need)
  | .quote key _ => ∀ k ∈ key, isQuotable (value k).toList = true
  | _ => True

section Filling

variable {value : String → String} {atoms : String → Need → List Atom} {ms : List Mark}

/-- The atoms of marks spell the filled-in text of their signs. -/
theorem atomsText_marks (h : ∀ m ∈ ms, m.Filled value atoms) :
    atomsText (ms.flatMap (Mark.atoms value atoms)) =
      fillSigns value (ms.flatMap Mark.signs) := by
  induction ms with
  | nil => rfl
  | cons m ms ih =>
    rw [List.flatMap_cons, List.flatMap_cons, atomsText_append, fillSigns_append,
      ih fun m' hm ↦ h m' (List.mem_cons_of_mem _ hm)]
    congr 1
    have hm := h m (List.mem_cons_self ..)
    cases m with
    | blank c => rfl
    | token k => simp [Mark.atoms, Mark.signs]
    | hole key need => simp [Mark.atoms, Mark.signs, HoleAtoms.text hm]
    | quote key tail => cases key <;> simp [Mark.atoms, Mark.signs, Kind.text]

/-- What is known of the first character holds of it. -/
def Leads : Lead → Option Char → Prop
  | .char c, next => next = some c
  | .letter, next => ∃ c, next = some c ∧ Text.isIdentStart c = true
  | .unknown, _ => True

theorem leads_lead (h : ∀ m ∈ ms, m.Filled value atoms) :
    Leads (lead ms) (firstChar (ms.flatMap (Mark.atoms value atoms)) (some '\x7d')) := by
  cases ms with
  | nil => rfl
  | cons m ms =>
    have hm := h m (List.mem_cons_self ..)
    rw [List.flatMap_cons]
    cases m with
    | blank c => rfl
    | token k =>
      show Leads ((k.text.toList.head?.map Lead.char).getD .unknown)
        (firstChar (.token k :: ms.flatMap (Mark.atoms value atoms)) (some '\x7d'))
      cases hk : k.text.toList with
      | nil => trivial
      | cons c cs =>
        rw [firstChar_token (by simp [hk]), hk]
        rfl
    | hole key need =>
      have hletter : (∃ c, (value key).toList.head? = some c ∧ Text.isIdentStart c = true) →
          ∃ c, firstChar (atoms key need ++ ms.flatMap (Mark.atoms value atoms)) (some '\x7d') =
            some c ∧ Text.isIdentStart c = true := by
        rintro ⟨c, hc, hi⟩
        refine ⟨c, ?_, hi⟩
        rw [firstChar_append, firstChar, HoleAtoms.text hm, hc]
        rfl
      cases need with
      | name => exact hletter (IsLabel.exists_head (.inl (hm.name rfl).1))
      | label => exact hletter (hm.label rfl)
      | phrase => trivial
      | quotable => trivial
    | quote key tail =>
      show Leads (.char '"') (firstChar (.token (.str _) :: _) (some '\x7d'))
      rw [firstChar_token (by simp [Kind.text])]
      simp [Leads, Kind.text]

theorem readsBefore_of_tokenFits {k : Kind} {l : Lead} {next : Option Char}
    (h : tokenFits k l = true) (hl : Leads l next) : k.ReadsBefore next := by
  cases l with
  | char c =>
    obtain rfl : next = some c := hl
    exact readsBefore_of_endsBefore h
  | letter =>
    obtain ⟨c, rfl, hc⟩ := hl
    rcases Bool.or_eq_true_iff.1 h with h | h
    · exact readsBefore_of_isIdentStart (of_decide_eq_true h) hc
    · rw [beq_iff_eq.1 h]
      exact readsBefore_newline _
  | unknown =>
    rcases Bool.or_eq_true_iff.1 h with h | h
    · exact readsBefore_of_isLoose h next
    · rw [beq_iff_eq.1 h]
      exact readsBefore_newline _

theorem closed_of_tokenFits {k : Kind} {l : Lead} (h : tokenFits k l = true) :
    k.Closed ∧ k ≠ .eof := by
  have hclosed : k.Closed := by
    cases l with
    | char c => exact closed_of_endsBefore h
    | letter =>
      rcases Bool.or_eq_true_iff.1 h with h | h
      · exact closed_symbol (of_decide_eq_true h)
      · rw [beq_iff_eq.1 h]
        exact closed_newline
    | unknown =>
      rcases Bool.or_eq_true_iff.1 h with h | h
      · exact closed_symbol (mem_symbols_of_isLoose h)
      · rw [beq_iff_eq.1 h]
        exact closed_newline
  refine ⟨hclosed, ?_⟩
  rintro rfl
  exact text_ne_nil_of_readsBefore (hclosed none rfl) rfl

/-- What is put into a hole is read back in front of what follows it. -/
theorem spelled_of_holeFits {key : String} {need : Need} {l : Lead} {next : Option Char}
    (hm : HoleAtoms need (value key) (atoms key need)) (h : holeFits need l = true)
    (hl : Leads l next) : Spelled (atoms key need) next := by
  cases l with
  | letter => cases need <;> cases h
  | unknown => cases need <;> cases h
  | char c =>
    obtain rfl : next = some c := hl
    cases need with
    | name =>
      obtain ⟨hname, has⟩ := hm.name rfl
      rw [has]
      refine ⟨hname.readsBefore ?_, trivial⟩
      simpa [holeFits] using h
    | label => exact hm.phrase.spelled _ h
    | phrase => exact hm.phrase.spelled _ h
    | quotable => cases h

/-- The string literal of a mark. -/
theorem isQuotable_quote {key : Option String} {tail : String}
    (hkey : ∀ k ∈ key, isQuotable (value k).toList = true) (htail : isQuotable tail.toList = true) :
    isQuotable ((key.map value).getD "" ++ tail).toList = true := by
  cases key with
  | none => simpa [isQuotable] using htail
  | some k =>
    have hk := hkey k rfl
    simp only [isQuotable] at hk htail
    simp [isQuotable, hk, htail]

/-- **The atoms of marks that fit are read back** in front of the closing brace. -/
theorem spelled_marks (h : ∀ m ∈ ms, m.Filled value atoms) (hfits : fits ms = true) :
    Spelled (ms.flatMap (Mark.atoms value atoms)) (some '\x7d') ∧
      ∀ k ∈ kinds (ms.flatMap (Mark.atoms value atoms)), k.Closed ∧ k ≠ .eof := by
  induction ms with
  | nil => exact ⟨trivial, by simp⟩
  | cons m ms ih =>
    have hrest : ∀ m' ∈ ms, m'.Filled value atoms := fun m' hm ↦ h m' (List.mem_cons_of_mem _ hm)
    have hm := h m (List.mem_cons_self ..)
    have hlead := leads_lead hrest
    rw [List.flatMap_cons, spelled_append, kinds_append]
    cases m with
    | blank c =>
      simp only [fits, Bool.and_eq_true, Bool.or_eq_true, beq_iff_eq] at hfits
      obtain ⟨hspelled, hclosed⟩ := ih hrest hfits.2
      exact ⟨⟨⟨hfits.1, trivial⟩, hspelled⟩, hclosed⟩
    | token k =>
      rw [fits, Bool.and_eq_true] at hfits
      obtain ⟨hspelled, hclosed⟩ := ih hrest hfits.2
      refine ⟨⟨⟨readsBefore_of_tokenFits hfits.1 hlead, trivial⟩, hspelled⟩, ?_⟩
      exact List.forall_mem_cons.2 ⟨closed_of_tokenFits hfits.1, hclosed⟩
    | hole key need =>
      rw [fits, Bool.and_eq_true] at hfits
      obtain ⟨hspelled, hclosed⟩ := ih hrest hfits.2
      have hm : HoleAtoms need (value key) (atoms key need) := hm
      refine ⟨⟨spelled_of_holeFits hm hfits.1 hlead, hspelled⟩, ?_⟩
      exact List.forall_mem_append.2
        ⟨fun k hk ↦ ⟨hm.phrase.closed k hk, (hm.phrase.quiet k hk).2⟩, hclosed⟩
    | quote key tail =>
      rw [fits, Bool.and_eq_true] at hfits
      obtain ⟨hspelled, hclosed⟩ := ih hrest hfits.2
      have hquotable := isQuotable_quote hm hfits.1
      refine ⟨⟨⟨readsBefore_str hquotable _, trivial⟩, hspelled⟩, ?_⟩
      exact List.forall_mem_cons.2 ⟨⟨closed_str hquotable, by simp⟩, hclosed⟩

/-- Colons that are tight among the marks are so among the atoms. -/
theorem tightFrom_marks (h : ∀ m ∈ ms, m.Filled value atoms) {colon touching : Bool}
    (htight : tightMarks colon touching ms = true) :
    tightFrom colon touching (ms.flatMap (Mark.atoms value atoms)) = true := by
  induction ms generalizing colon touching with
  | nil => rfl
  | cons m ms ih =>
    have ih := @ih fun m' hm ↦ h m' (List.mem_cons_of_mem _ hm)
    have hm := h m (List.mem_cons_self ..)
    rw [List.flatMap_cons]
    cases m with
    | blank c => exact ih htight
    | token k =>
      show tightFrom colon touching (.token k :: ms.flatMap (Mark.atoms value atoms)) = true
      rw [tightMarks] at htight
      split at htight
      · rename_i hk
        rw [hk, tightFrom_newline]
        exact ih htight
      · rename_i hk
        simp only [Bool.and_eq_true, Bool.not_eq_true', Bool.or_eq_true, bne_iff_ne] at htight
        rw [tightFrom_token hk]
        exact ⟨htight.1.1, fun hc ↦ htight.1.2.resolve_left (not_not.2 hc), ih htight.2⟩
    | hole key need =>
      simp only [tightMarks, Bool.and_eq_true, Bool.not_eq_true'] at htight
      obtain ⟨rfl, htight⟩ := htight
      have hm : HoleAtoms need (value key) (atoms key need) := hm
      by_cases hneed : need = .name
      · obtain ⟨-, has⟩ := hm.name hneed
        show tightFrom false touching (atoms key need ++ _) = true
        rw [has]
        refine (tightFrom_token (by simp) _ _ _).2 ⟨rfl, by simp, ?_⟩
        rw [hneed] at htight
        exact ih htight
      · rw [beq_false_of_ne hneed] at htight
        exact tightFrom_append (fun k hk ↦ (hm.phrase.quiet k hk).1) (ih htight) touching
    | quote key tail =>
      simp only [tightMarks, Bool.and_eq_true, Bool.not_eq_true'] at htight
      obtain ⟨rfl, htight⟩ := htight
      exact (tightFrom_token (by simp) _ _ _).2 ⟨rfl, by simp, ih htight⟩

/-- What is put into holes does not count for the brackets. -/
theorem depthAfter_marks (h : ∀ m ∈ ms, m.Filled value atoms) (depth : Nat) :
    depthAfter depth (kinds (ms.flatMap (Mark.atoms value atoms))) =
      depthAfter depth (markKinds ms) := by
  induction ms generalizing depth with
  | nil => rfl
  | cons m ms ih =>
    have ih := ih fun m' hm ↦ h m' (List.mem_cons_of_mem _ hm)
    have hm := h m (List.mem_cons_self ..)
    rw [List.flatMap_cons, kinds_append]
    cases m with
    | blank c => exact ih depth
    | token k =>
      show depthAfter depth ([k] ++ _) = depthAfter depth ([k] ++ markKinds ms)
      rw [depthAfter_append, depthAfter_append]
      exact congrArg _ (funext ih)
    | hole key need =>
      have hm : HoleAtoms need (value key) (atoms key need) := hm
      rw [Mark.atoms, depthAfter_append, hm.phrase.balanced]
      exact ih depth
    | quote key tail => exact ih depth

/-- **The atoms of marks that pass the test are those of a function body.** -/
theorem body_of_filled {needs : List (String × Need)} (hchecks : checks needs ms = true)
    (h : ∀ m ∈ ms, m.Filled value atoms) : Body (ms.flatMap (Mark.atoms value atoms)) := by
  simp only [checks, Bool.and_eq_true, decide_eq_true_eq] at hchecks
  obtain ⟨⟨⟨hfits, htight⟩, hdepth⟩, -⟩ := hchecks
  refine ⟨(spelled_marks h hfits).1, (spelled_marks h hfits).2, tightFrom_marks h htight, ?_⟩
  rw [depthAfter_marks h]
  exact hdepth

end Filling

/-- Values of the right kinds have atoms for the holes. -/
theorem exists_filled_of_checks {needs : List (String × Need)} {ms : List Mark}
    (hchecks : checks needs ms = true) {value : String → String}
    (hneeds : ∀ p ∈ needs, Suits p.2 (value p.1)) :
    ∃ atoms : String → Need → List Atom, ∀ m ∈ ms, m.Filled value atoms := by
  rw [checks, Bool.and_eq_true] at hchecks
  -- each hole has atoms of its own, whether it is listed or not
  have hchoice : ∀ key need, ∃ as, (key, need) ∈ needs → need ≠ .quotable →
      HoleAtoms need (value key) as := by
    intro key need
    by_cases hmem : (key, need) ∈ needs ∧ need ≠ .quotable
    · obtain ⟨as, has⟩ := (hneeds _ hmem.1).exists_atoms hmem.2
      exact ⟨as, fun _ _ ↦ has⟩
    · exact ⟨[], fun h₁ h₂ ↦ absurd ⟨h₁, h₂⟩ hmem⟩
  choose atoms hatoms using hchoice
  refine ⟨atoms, fun m hm ↦ ?_⟩
  have hcover := List.all_eq_true.1 hchecks.2 m hm
  cases m with
  | blank c => trivial
  | token k => trivial
  | hole key need =>
    obtain ⟨hmem, hneed⟩ : (key, need) ∈ needs ∧ need ≠ .quotable := of_decide_eq_true hcover
    exact hatoms key need hmem hneed
  | quote key tail =>
    rintro k hk
    obtain rfl : key = some k := hk
    exact hneeds (k, .quotable) (of_decide_eq_true hcover)

/-- **Marks that pass the test have the atoms of a function body**, whatever values of the right
kinds are put into the holes. -/
theorem exists_body_of_checks {needs : List (String × Need)} {ms : List Mark}
    (hchecks : checks needs ms = true) {value : String → String}
    (hneeds : ∀ p ∈ needs, Suits p.2 (value p.1)) :
    ∃ as, Body as ∧ atomsText as = fillSigns value (ms.flatMap Mark.signs) := by
  obtain ⟨atoms, hfilled⟩ := exists_filled_of_checks hchecks hneeds
  exact ⟨_, body_of_filled hchecks hfilled, atomsText_marks hfilled⟩

end GoDecorator.Template
