import GoDecorator.Proofs.Catalogue.Running

/-!
# Histories

What a visitor remembers outlives a run, so the same visitor can be shown one file after the other.
For the visitor of a pattern the memory is one slot, and two facts determine all of its histories:

* **a run fills the slot or leaves it alone** (`recorded?_concat`), so after any number of runs it
  holds the reason of the *first* file that the pattern refused (`recorded?_eq_findSome?`);
* **a full slot spoils every later run**, with one exception: a failure of the generator is passed
  on before the slot is looked at (`outcome_run_ofPattern`).

So a visitor that has refused one file gives out no declarations again (`ofPattern_history`), not
even for a file that it would have accepted at first.
-/

namespace GoDecorator

/-- Why a pattern refuses a file: it does not apply to the first type declaration. -/
def Pattern.refusalOf? (p : Pattern) (file : SourceFile) : Option Rejection :=
  (firstSpec? file.nodes).bind p.refusal?

/-- The pattern applies to the first type declaration of a file, and then generating fails. -/
def Pattern.FailsOn (p : Pattern) (file : SourceFile) (f : Failure) : Prop :=
  ∃ spec d, firstSpec? file.nodes = some spec ∧ p.check spec = .ok d ∧
    (p.generate d).outcome = .error f

namespace Visitor

/-- What a visitor remembers after it has been shown files, one after the other. -/
def stateAfter (v : Visitor) (files : List SourceFile) : v.State :=
  files.foldl (fun state file ↦ (v.run state file).1) v.start

/-- The rejection that a visitor has recorded after it has been shown files. -/
def recorded? (v : Visitor) (files : List SourceFile) : Option Rejection :=
  v.rejection? (v.stateAfter files)

/-- What comes of showing a file to a visitor that has been shown others before. -/
def outcomeAfter (v : Visitor) (before : List SourceFile) (file : SourceFile) :
    Outcome (List Decl) :=
  (v.run (v.stateAfter before) file).2.outcome

theorem stateAfter_concat (v : Visitor) (files : List SourceFile) (file : SourceFile) :
    v.stateAfter (files ++ [file]) = (v.run (v.stateAfter files) file).1 := by
  simp only [stateAfter, List.foldl_append, List.foldl_cons, List.foldl_nil]

variable {p : Pattern} {file : SourceFile} {before : List SourceFile}

/-! ### The slot -/

/-- One run fills an empty slot if the pattern refuses the file. -/
theorem recorded?_concat (p : Pattern) (files : List SourceFile) (file : SourceFile) :
    (ofPattern p).recorded? (files ++ [file]) =
      ((ofPattern p).recorded? files).or (p.refusalOf? file) := by
  rw [recorded?, stateAfter_concat]
  exact (walk_ofPattern p _ file.nodes).1

/-- **The slot holds the first refusal.** -/
theorem recorded?_eq_findSome? (p : Pattern) (files : List SourceFile) :
    (ofPattern p).recorded? files = files.findSome? p.refusalOf? := by
  induction files using List.reverseRecOn with
  | nil => rfl
  | append_singleton files file ih =>
    rw [recorded?_concat, ih, List.findSome?_append]
    simp only [List.findSome?_cons, List.findSome?_nil]
    cases p.refusalOf? file <;> rfl

/-- A full slot keeps what it holds. -/
theorem recorded?_append {r : Rejection} (h : (ofPattern p).recorded? before = some r)
    (later : List SourceFile) : (ofPattern p).recorded? (before ++ later) = some r := by
  rw [recorded?_eq_findSome?] at h ⊢
  rw [List.findSome?_append, h, Option.some_or]

/-! ### The outcome of one run in a history -/

/-- A failure of the generator is passed on, whatever is in the slot. -/
theorem outcomeAfter_of_failsOn {f : Failure} (h : p.FailsOn file f) :
    (ofPattern p).outcomeAfter before file = .error f := by
  obtain ⟨spec, d, hfirst, hcheck, hgenerate⟩ := h
  simp only [outcomeAfter, outcome_run_ofPattern, hfirst, hcheck, hgenerate]
  rfl

/-- Without such a failure, the run ends with what the slot holds after it. -/
theorem outcomeAfter_of_recorded {r : Rejection} (hnone : ∀ f, ¬ p.FailsOn file f)
    (h : (ofPattern p).recorded? (before ++ [file]) = some r) :
    (ofPattern p).outcomeAfter before file = .error (.error (.rejected r)) := by
  rw [recorded?_concat, Pattern.refusalOf?] at h
  rw [outcomeAfter, outcome_run_ofPattern]
  change Option.or ((ofPattern p).rejection? _) _ = _ at h
  generalize (ofPattern p).rejection? _ = slot at h ⊢
  cases hfirst : firstSpec? file.nodes with
  | none =>
    rw [hfirst, Option.bind_none, Option.or_none] at h
    simp only [h, Option.getD_some]
  | some spec =>
    rw [hfirst, Option.bind_some, Pattern.refusal?] at h
    cases hcheck : p.check spec with
    | error r' =>
      rw [hcheck] at h
      simp only [hcheck]
      cases slot <;> cases h <;> rfl
    | ok d =>
      rw [hcheck, Option.or_none] at h
      cases hgenerate : (p.generate d).outcome with
      | error f => exact absurd ⟨spec, d, hfirst, hcheck, hgenerate⟩ (hnone f)
      | ok decls =>
        simp only [hcheck, h, hgenerate]
        rfl

/-- An empty slot after the run means that the pattern applies to the first type declaration, if
there is one. -/
theorem outcomeAfter_of_not_recorded (h : (ofPattern p).recorded? (before ++ [file]) = none) :
    (firstSpec? file.nodes = none →
      (ofPattern p).outcomeAfter before file = .error (.error (.rejected .nothingToImplement))) ∧
    ∀ spec, firstSpec? file.nodes = some spec → ∃ d, p.check spec = .ok d ∧
      (ofPattern p).outcomeAfter before file = (p.generate d).outcome := by
  rw [recorded?_concat, Option.or_eq_none_iff, Pattern.refusalOf?] at h
  obtain ⟨hslot, hrefusal⟩ := h
  change (ofPattern p).rejection? _ = none at hslot
  refine ⟨fun hfirst ↦ ?_, fun spec hfirst ↦ ?_⟩
  · simp only [outcomeAfter, outcome_run_ofPattern, hfirst, hslot, Option.getD_none]
  · rw [hfirst, Option.bind_some, Pattern.refusal?] at hrefusal
    cases hcheck : p.check spec with
    | error r =>
      rw [hcheck] at hrefusal
      cases hrefusal
    | ok d =>
      refine ⟨d, rfl, ?_⟩
      simp only [outcomeAfter, outcome_run_ofPattern, hfirst, hcheck, hslot, Option.elim_none]
      exact bind_pure _

/-- Declarations are only given out while the slot is empty. -/
theorem recorded?_of_outcomeAfter {decls : List Decl}
    (h : (ofPattern p).outcomeAfter before file = .ok decls) :
    (ofPattern p).recorded? (before ++ [file]) = none := by
  by_contra hslot
  obtain ⟨r, hr⟩ := Option.ne_none_iff_exists'.1 hslot
  by_cases hfails : ∃ f, p.FailsOn file f
  · obtain ⟨f, hf⟩ := hfails
    rw [outcomeAfter_of_failsOn hf] at h
    cases h
  · rw [outcomeAfter_of_recorded (not_exists.1 hfails) hr] at h
    cases h

/-! ### All histories -/

/-- **One visitor of a pattern over many runs.** The slot holds the first refusal and never changes
afterwards. What a run comes to depends on the first type declaration and on the slot: a failure of
the generator comes first, then what the slot holds after the run, and only then what the pattern
generates. Declarations are given out only if no file was ever refused. -/
theorem ofPattern_history (p : Pattern) :
    (∀ files, (ofPattern p).recorded? files = files.findSome? p.refusalOf?) ∧
    (∀ files later r, (ofPattern p).recorded? files = some r →
      (ofPattern p).recorded? (files ++ later) = some r) ∧
    (∀ before before' file file', firstSpec? file.nodes = firstSpec? file'.nodes →
      (ofPattern p).recorded? before = (ofPattern p).recorded? before' →
        (ofPattern p).outcomeAfter before file = (ofPattern p).outcomeAfter before' file') ∧
    ∀ before file,
      (∀ f, p.FailsOn file f → (ofPattern p).outcomeAfter before file = .error f) ∧
      ((∀ f, ¬ p.FailsOn file f) →
        (∀ r, (ofPattern p).recorded? (before ++ [file]) = some r →
          (ofPattern p).outcomeAfter before file = .error (.error (.rejected r))) ∧
        ((ofPattern p).recorded? (before ++ [file]) = none →
          (∀ spec, firstSpec? file.nodes = some spec → ∃ d decls, p.check spec = .ok d ∧
            (p.generate d).outcome = .ok decls ∧
              (ofPattern p).outcomeAfter before file = .ok decls) ∧
          (firstSpec? file.nodes = none → (ofPattern p).outcomeAfter before file =
            .error (.error (.rejected .nothingToImplement))))) ∧
      ∀ decls, (ofPattern p).outcomeAfter before file = .ok decls →
        ∀ shown ∈ before ++ [file], p.refusalOf? shown = none := by
  refine ⟨recorded?_eq_findSome? p, fun files later r h ↦ recorded?_append h later,
    fun before before' file file' hfirst hslot ↦ ?_, fun before file ↦
      ⟨fun f ↦ outcomeAfter_of_failsOn, fun hnone ↦ ⟨fun r ↦ outcomeAfter_of_recorded hnone,
        fun hslot ↦ ⟨fun spec hfirst ↦ ?_, (outcomeAfter_of_not_recorded hslot).1⟩⟩,
        fun decls h ↦ ?_⟩⟩
  · change (ofPattern p).rejection? _ = (ofPattern p).rejection? _ at hslot
    rw [outcomeAfter, outcomeAfter, outcome_run_ofPattern, outcome_run_ofPattern, hfirst, hslot]
  · obtain ⟨d, hcheck, houtcome⟩ := (outcomeAfter_of_not_recorded hslot).2 spec hfirst
    cases hgenerate : (p.generate d).outcome with
    | error f => exact absurd ⟨spec, d, hfirst, hcheck, hgenerate⟩ (hnone f)
    | ok decls => exact ⟨d, decls, hcheck, hgenerate, houtcome.trans hgenerate⟩
  · have hslot := recorded?_of_outcomeAfter h
    rw [recorded?_eq_findSome?] at hslot
    exact List.findSome?_eq_none_iff.1 hslot

/-- A file that declares a number type. -/
def numberFile : SourceFile := ⟨"abc", [.type ⟨"Number", .shape (.primitive .int)⟩]⟩

/-- A file that declares an interface with one method. -/
def pingFile : SourceFile :=
  ⟨"abc", [.type ⟨"Pinger", .interface ⟨[⟨"Ping", ⟨[], []⟩⟩], []⟩⟩]⟩

set_option maxRecDepth 8000 in
/-- The visitor for logging accepts the interface if it sees it at first. After it has refused the
number type, it answers the interface with that refusal. -/
theorem ofPattern_history_slog :
    ((ofPattern (Pattern.slog "abc")).outcomeAfter [] pingFile).isOk ∧
      (ofPattern (Pattern.slog "abc")).outcomeAfter [numberFile] pingFile =
        .error (.error (.rejected (.notAnInterface "Number"))) := by
  have hfresh : ((ofPattern (Pattern.slog "abc")).outcomeAfter [] pingFile).isOk := by
    decide +kernel
  refine ⟨hfresh, ?_⟩
  have hfails (f : Failure) : ¬ (Pattern.slog "abc").FailsOn pingFile f := fun hf ↦ by
    rw [outcomeAfter_of_failsOn hf] at hfresh
    cases hfresh
  obtain ⟨hslot, -, -, hrun⟩ := ofPattern_history (Pattern.slog "abc")
  refine ((hrun [numberFile] pingFile).2.1 hfails).1 _ ?_
  rw [hslot]
  decide +kernel

end Visitor

end GoDecorator
