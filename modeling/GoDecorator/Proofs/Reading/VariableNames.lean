import GoDecorator.Proofs.Reading.Types
import GoDecorator.Proofs.Shape.Naming

/-!
# Names for the variables of types that are read

A name that is made from a type is to stand in generated code, so it has to be *usable*: one
identifier for the lexer, and none of the reserved words of Go. The lexer itself knows only ten of
these words, which is why the two conditions are kept apart.

That no name is a reserved word holds throughout: `escapeReserved` sees to it, and a number that is
added afterwards does not undo it. That a name is an identifier holds with **one exception**. A type
whose name starts with the dotted capital `I` gives its variables, and those of pointers to it and
of collections of it, a name with a combining dot in it. So derived names are usable exactly if they
are named after no such type (`derived_names_usable`), and `dotted_name_not_usable` is the
exception.
-/

namespace GoDecorator

open Token

/-- **The text can be the name of a variable.** -/
structure IsUsable (name : String) : Prop where
  /-- The lexer reads it as one identifier. -/
  isName : IsName name
  /-- It is none of the reserved words of Go. -/
  not_reserved : name ∉ reservedWords

theorem isLower_of_mem_reservedWords :
    ∀ word ∈ reservedWords, ∀ c ∈ word.toList, c.isLower = true := by
  decide

theorem escapeReserved_not_mem (name : String) : escapeReserved name ∉ reservedWords := by
  have hsuffix : ∀ word ∈ reservedWords, word ++ "Val" ∉ reservedWords := by decide
  unfold escapeReserved
  split
  next hmem => exact hsuffix name hmem
  next hfree => exact hfree

/-- Reserved words have no digits. -/
theorem numbered_not_mem_reservedWords (base : String) (k : Nat) :
    numbered base k ∉ reservedWords := by
  intro hmem
  obtain ⟨c, hc, hlower⟩ := (isIdentPart_toString k).2
  have hword : c ∈ (numbered base k).toList := by
    rw [numbered, String.toList_append]
    exact List.mem_append_right _ hc
  have hsmall := isLower_of_mem_reservedWords _ hmem c hword
  rw [hlower] at hsmall
  cases hsmall

namespace Shape

variable {s : Shape}

theorem isUsable_variableName_iff (h : s.Proper) : IsUsable s.variableName ↔ s.IsNamedPlainly := by
  constructor
  · intro husable
    by_contra hdotted
    exact (isBroken_variableName h hdotted).not_isName husable.isName
  · intro hplain
    exact ⟨isName_escapeReserved (isIdentifier_baseName h hplain), escapeReserved_not_mem _⟩

/-- A name that is handed out for a type is usable exactly if the one that was asked for is. -/
theorem isUsable_allocateFor_iff (h : s.Proper) (names : Names) :
    IsUsable (names.allocateFor s).1 ↔ s.IsNamedPlainly := by
  constructor
  · intro husable
    by_contra hdotted
    exact (names.isBroken_allocate (isBroken_variableName h hdotted)).not_isName husable.isName
  · intro hplain
    have hvariable := (isUsable_variableName_iff h).2 hplain
    refine ⟨names.isName_allocate hvariable.isName, ?_⟩
    rcases names.allocate_cases s.variableName with hsame | ⟨k, hk⟩
    · rw [Names.allocateFor, hsame]
      exact hvariable.not_reserved
    · rw [Names.allocateFor, hk]
      exact numbered_not_mem_reservedWords _ k

end Shape

/-- What holds of one name that is handed out holds of all that are handed out one after the other,
whatever is taken at first. -/
theorem Names.forall₂_allocateAll (names : Names) {ss : List Shape} (h : ∀ s ∈ ss, s.Proper) :
    List.Forall₂ (fun s name ↦ IsUsable name ↔ s.IsNamedPlainly) ss (names.allocateAll ss).1 := by
  induction ss generalizing names with
  | nil => exact .nil
  | cons s ss ih =>
    obtain ⟨hs, hss⟩ := List.forall_mem_cons.1 h
    exact .cons (Shape.isUsable_allocateFor_iff hs names) (ih _ hss)

/-- **Derived names are usable, but for the dotted capital.** The names for variables of types that
were read are usable exactly if they are not made from a name with a dotted capital, and so is each
of the names that are handed out for these types where none is taken at first. -/
theorem derived_names_usable {ss : List Shape} (h : ∀ s ∈ ss, ∃ text, Shape.read text = .ok s) :
    (∀ s ∈ ss, IsUsable s.variableName ↔ s.IsNamedPlainly) ∧
      List.Forall₂ (fun s name ↦ IsUsable name ↔ s.IsNamedPlainly) ss
        (Names.empty.allocateAll ss).1 := by
  have hproper : ∀ s ∈ ss, s.Proper := by
    intro s hs
    obtain ⟨text, hread⟩ := h s hs
    exact (wellFormed_of_read hread).proper
  exact ⟨fun s hs ↦ Shape.isUsable_variableName_iff (hproper s hs),
    Names.empty.forall₂_allocateAll hproper⟩

/-- The name of the type is a reserved word in lower case, and the name is asked for twice. -/
theorem derived_names_usable_type :
    ∃ s, Shape.read "*pkg.Type" = .ok s ∧ s.variableName = "typeVal" ∧ IsUsable "typeVal" ∧
      (Names.empty.allocateAll [s, s]).1 = ["typeVal", "typeVal2"] ∧ IsUsable "typeVal2" := by
  have hread : Shape.read "*pkg.Type" = .ok (.pointer (.named (some "pkg") "Type")) := by
    decide +kernel
  have hnames : (Names.empty.allocateAll [.pointer (.named (some "pkg") "Type"),
      .pointer (.named (some "pkg") "Type")]).1 = ["typeVal", "typeVal2"] := by
    decide +kernel
  have hplain : (Shape.pointer (.named (some "pkg") "Type")).IsNamedPlainly := by decide
  obtain ⟨hvariable, hall⟩ := derived_names_usable fun s hs ↦ ⟨"*pkg.Type",
    (List.mem_pair.1 hs).elim (fun h ↦ h ▸ hread) fun h ↦ h ▸ hread⟩
  rw [hnames] at hall
  obtain _ | ⟨-, _ | ⟨hsecond, -⟩⟩ := hall
  exact ⟨_, hread, rfl, (hvariable _ List.mem_cons_self).2 hplain, hnames, hsecond.2 hplain⟩

/-- **A type whose name starts with the dotted capital gives no usable name.** -/
theorem dotted_name_not_usable :
    ∃ s, Shape.read "[]\u0130d" = .ok s ∧ s.variableName = "i\u0307ds" ∧
      ¬ IsUsable "i\u0307ds" ∧ (Names.empty.allocateAll [s]).1 = ["i\u0307ds"] := by
  have hread : Shape.read "[]\u0130d" = .ok (.slice (.named none "\u0130d")) := by decide +kernel
  refine ⟨_, hread, by decide +kernel, fun h ↦ ?_, by decide +kernel⟩
  exact absurd h.isName (by decide +kernel)

end GoDecorator
