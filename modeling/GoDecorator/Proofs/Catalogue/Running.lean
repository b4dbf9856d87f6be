import GoDecorator.Catalogue
import GoDecorator.Proofs.Reading.Types
import GoDecorator.Proofs.Pattern.Wrapping

/-!
# Runs

What comes of showing a file to a visitor, and from there what comes of a request to a catalogue
(`Catalogue.outcome_implement`). The journals play no part in either: all statements here are about
outcomes.

## The visitor of a pattern

A visitor is shown all nodes of a file, and it may remember something from one run to the next. The
visitor of a pattern looks at the **first type declaration** and at nothing else
(`outcome_runFresh_ofPattern`): there is none, or the pattern does not apply to it, or the outcome
is what the pattern generates.

What it remembers is why the pattern did not apply at some time. That has no influence on the walk
(`walk_ofPattern`), but what the walk comes to is given out only if nothing is remembered
(`outcome_run_ofPattern`). So a visitor that was used before is not as good as a fresh one.

## Input

An input is read as declarations, and if it is none, as a type (`outcome_readInput`). Both times it
is put into a template, and filling that in cannot fail, whatever the text of the input is.

What a pattern may rely on follows from what the parser ensures: the declarations of an input are
well-formed (`wellFormed_of_readInput`), and so is the descriptor of each of them
(`wellFormed_of_descriptor?`).
-/

namespace GoDecorator

/-! ### The visitor of a pattern -/

/-- The first type declaration among nodes. -/
def firstSpec? : List Node → Option TypeSpec
  | [] => none
  | .typeSpec spec :: _ => some spec
  | _ :: nodes => firstSpec? nodes

/-- The first type declaration of a file that was read is one of its declarations. -/
theorem mem_decls_of_firstSpec? {ds : List Decl} {spec : TypeSpec}
    (h : firstSpec? (ds.flatMap Decl.nodes) = some spec) : .type spec ∈ ds := by
  have hmethods (ms : List MethodSpec) (nodes : List Node) :
      firstSpec? (ms.map Node.method ++ nodes) = firstSpec? nodes := by
    induction ms with
    | nil => rfl
    | cons m ms ih => exact ih
  induction ds with
  | nil => cases h
  | cons d ds ih =>
    cases d with
    | type spec' =>
      obtain rfl : spec' = spec := Option.some.inj h
      exact List.mem_cons_self ..
    | func f => exact List.mem_cons_of_mem _ (ih h)
    | var v => exact List.mem_cons_of_mem _ (ih h)

/-- Why a pattern does not apply to a type declaration, if it does not. -/
def Pattern.refusal? (p : Pattern) (spec : TypeSpec) : Option Rejection :=
  match p.check spec with
  | .ok _ => none
  | .error r => some r

namespace Visitor

/-- A walk stops or fails at its first node, or goes on after it. -/
theorem walk_cons (v : Visitor) (state : v.State) (node : Node) (nodes : List Node) :
    v.walk state (node :: nodes) =
      match (v.visit state node).2.outcome with
      | .error e => ((v.visit state node).1, ⟨(v.visit state node).2.journal, .error e⟩)
      | .ok (.stop decls) =>
        ((v.visit state node).1, ⟨(v.visit state node).2.journal, .ok (some decls)⟩)
      | .ok .goOn =>
        ((v.walk (v.visit state node).1 nodes).1,
          ⟨(v.visit state node).2.journal ++ (v.walk (v.visit state node).1 nodes).2.journal,
            (v.walk (v.visit state node).1 nodes).2.outcome⟩) := rfl

/-- What the visitor of a pattern does on seeing a type declaration. -/
theorem visit_typeSpec (p : Pattern) (state : (ofPattern p).State) (spec : TypeSpec) :
    (ofPattern p).rejection? ((ofPattern p).visit state (.typeSpec spec)).1 =
        ((ofPattern p).rejection? state).or (p.refusal? spec) ∧
      ((ofPattern p).visit state (.typeSpec spec)).2.outcome =
        match p.check spec with
        | .ok d => (p.generate d).outcome.map Visit.stop
        | .error _ => .ok (.stop []) := by
  simp only [ofPattern, Pattern.refusal?]
  cases p.check spec with
  | error r => exact ⟨rfl, rfl⟩
  | ok d =>
    refine ⟨(Option.or_none).symm, ?_⟩
    simp only [Traced.outcome_bind, Traced.outcome_pure]
    cases (p.generate d).outcome <;> rfl

/-- What the visitor of a pattern remembers after a walk, and what the walk comes to. What it
remembered before has no influence on the walk. -/
theorem walk_ofPattern (p : Pattern) (state : (ofPattern p).State) (nodes : List Node) :
    (ofPattern p).rejection? ((ofPattern p).walk state nodes).1 =
        ((ofPattern p).rejection? state).or ((firstSpec? nodes).bind p.refusal?) ∧
      ((ofPattern p).walk state nodes).2.outcome =
        (firstSpec? nodes).elim (.ok none) fun spec ↦
          match p.check spec with
          | .ok d => (p.generate d).outcome.map some
          | .error _ => .ok (some []) := by
  induction nodes with
  | nil => exact ⟨(Option.or_none).symm, rfl⟩
  | cons node nodes ih =>
    cases node with
    | typeSpec spec =>
      obtain ⟨hstate, hseen⟩ := visit_typeSpec p state spec
      rw [walk_cons, firstSpec?, Option.bind_some, Option.elim_some, hseen, ← hstate]
      cases p.check spec with
      | error r => exact ⟨rfl, rfl⟩
      | ok d =>
        dsimp only
        cases (p.generate d).outcome <;> exact ⟨rfl, rfl⟩
    | _ => exact ih

/-- **What a run of the visitor of a pattern comes to, whatever it remembered before.** What the
pattern generates is only given out if nothing is remembered. -/
theorem outcome_run_ofPattern (p : Pattern) (state : (ofPattern p).State) (file : SourceFile) :
    ((ofPattern p).run state file).2.outcome =
      match firstSpec? file.nodes with
      | none => .error (.error (.rejected (((ofPattern p).rejection? state).getD
          .nothingToImplement)))
      | some spec =>
        match p.check spec with
        | .error r => .error (.error (.rejected (((ofPattern p).rejection? state).getD r)))
        | .ok d => (p.generate d).outcome >>= fun decls ↦
            ((ofPattern p).rejection? state).elim (.ok decls) fun r ↦
              .error (.error (.rejected r)) := by
  obtain ⟨hstate, hwalk⟩ := walk_ofPattern p state file.nodes
  simp only [run, Traced.outcome_bind, hwalk, hstate]
  generalize (ofPattern p).rejection? state = slot
  cases firstSpec? file.nodes with
  | none => cases slot <;> rfl
  | some spec =>
    simp only [Option.elim_some, Option.bind_some, Pattern.refusal?]
    cases p.check spec with
    | error r => cases slot <;> rfl
    | ok d =>
      dsimp only
      cases (p.generate d).outcome <;> cases slot <;> rfl

/-- **The visitor of a pattern looks at the first type declaration of a file.** If there is one and
the pattern applies to it, the outcome is what the pattern generates. -/
theorem outcome_runFresh_ofPattern (p : Pattern) (file : SourceFile) :
    ((ofPattern p).runFresh file).outcome =
      match firstSpec? (file.decls.flatMap Decl.nodes) with
      | none => .error (.error (.rejected .nothingToImplement))
      | some spec =>
        match p.check spec with
        | .error r => .error (.error (.rejected r))
        | .ok d => (p.generate d).outcome := by
  rw [runFresh, outcome_run_ofPattern]
  have hnodes : firstSpec? file.nodes = firstSpec? (file.decls.flatMap Decl.nodes) := rfl
  rw [hnodes]
  cases firstSpec? (file.decls.flatMap Decl.nodes) with
  | none => rfl
  | some spec =>
    dsimp only
    cases p.check spec with
    | error r => rfl
    | ok d => exact bind_pure _

end Visitor

/-! ### Input -/

/-- One attempt to read an input: its template is filled in and the text is read as a file. -/
theorem outcome_readInputWith_cons (input : String) (failure : Error) (index : Nat)
    (template : String) (templates : List String) :
    (readInputWith input failure index (template :: templates)).outcome =
      match Template.instantiate [("TEXT", .text input)] template with
      | .error e => .error (.error e)
      | .ok source =>
        match parseSource source with
        | .error f => .error f
        | .ok (.ok file) => .ok file
        | .ok (.error e) =>
          (readInputWith input (.unreadableInput e) (index + 1) templates).outcome := by
  rw [readInputWith, Traced.outcome_bind, Template.render]
  cases Template.instantiate [("TEXT", .text input)] template with
  | error e => rfl
  | ok source =>
    show ((liftM (parseSource source) : Traced _) >>= _).outcome = _
    rw [Traced.outcome_bind]
    dsimp only
    cases parseSource source with
    | error f => rfl
    | ok result => cases result <;> rfl

/-- The text that an input is read as at first: a list of declarations. -/
def asDecls (input : String) : String := "package whatever\n\n" ++ input ++ "\n"

/-- The text that an input is read as next: a type. -/
def asType (input : String) : String := "package whatever\n\ntype xxx " ++ input ++ "\n"

/-- The first template is filled in with any text. -/
theorem instantiate_asDecls (input : String) :
    Template.instantiate [("TEXT", .text input)]
      "package whatever\n\n\x7b\x7bTEXT\x7d\x7d\n" = .ok (asDecls input) := by
  obtain ⟨text, hfilled, htext⟩ := @Template.instantiate_of_matchesKeys
    [("TEXT", .text input)] "package whatever\n\n\x7b\x7bTEXT\x7d\x7d\n" _ _ rfl rfl rfl
  have hdecls : text = "package whatever\n\n" ++ input ++ "\n" := by
    rw [← String.toList_inj, htext]
    simp [Template.Value.render]
  exact hfilled.trans (congrArg _ hdecls)

/-- So is the second one. -/
theorem instantiate_asType (input : String) :
    Template.instantiate [("TEXT", .text input)]
      "package whatever\n\ntype xxx \x7b\x7bTEXT\x7d\x7d\n" = .ok (asType input) := by
  obtain ⟨text, hfilled, htext⟩ := @Template.instantiate_of_matchesKeys
    [("TEXT", .text input)] "package whatever\n\ntype xxx \x7b\x7bTEXT\x7d\x7d\n" _ _ rfl rfl rfl
  have htype : text = "package whatever\n\ntype xxx " ++ input ++ "\n" := by
    rw [← String.toList_inj, htext]
    simp [Template.Value.render]
  exact hfilled.trans (congrArg _ htype)

/-- **An input is read as declarations, and if it is none, as a type.** -/
theorem outcome_readInput (input : String) :
    (readInput input).outcome =
      match parseSource (asDecls input) with
      | .error f => .error f
      | .ok (.ok file) => .ok file
      | .ok (.error _) =>
        match parseSource (asType input) with
        | .error f => .error f
        | .ok (.ok file) => .ok file
        | .ok (.error e) => .error (.error (.unreadableInput e)) := by
  rw [readInput, inputTemplates, outcome_readInputWith_cons, instantiate_asDecls]
  dsimp only
  cases parseSource (asDecls input) with
  | error f => rfl
  | ok result =>
    cases result with
    | ok file => rfl
    | error e =>
      dsimp only
      rw [outcome_readInputWith_cons, instantiate_asType]
      dsimp only
      cases parseSource (asType input) with
      | error f => rfl
      | ok result => cases result <;> rfl

/-- **What is read as an input was read as a file.** -/
theorem exists_parseSource_of_readInput {input : String} {file : SourceFile}
    (h : (readInput input).outcome = .ok file) : ∃ source, parseSource source = .ok (.ok file) := by
  rw [outcome_readInput] at h
  split at h
  · cases h
  · rename_i hparse
    exact ⟨_, Except.ok.inj h ▸ hparse⟩
  · split at h
    · cases h
    · rename_i hparse
      exact ⟨_, Except.ok.inj h ▸ hparse⟩
    · cases h

/-- The declarations of an input that was read are well-formed. -/
theorem wellFormed_of_readInput {input : String} {file : SourceFile}
    (h : (readInput input).outcome = .ok file) : ∀ d ∈ file.decls, d.WellFormed := by
  obtain ⟨source, hsource⟩ := exists_parseSource_of_readInput h
  exact wellFormed_of_parseSource hsource

/-- The descriptor of a declaration as one of some kind is the descriptor of the declaration. -/
theorem descriptor?_of_describeAs {kind : DescriptorKind} {spec : TypeSpec} {d : Descriptor}
    (h : spec.describeAs kind = .ok d) : spec.descriptor? = some d := by
  unfold TypeSpec.describeAs at h
  split at h
  · rename_i hfilter
    split at h
    · cases h
    · obtain rfl := Except.ok.inj h
      exact (Option.filter_eq_some_iff.1 hfilter).1
  · rename_i hfilter
    obtain rfl := Except.ok.inj h
    exact (Option.filter_eq_some_iff.1 hfilter).1
  · cases h
  · cases h

/-- **A descriptor of a well-formed declaration is well-formed.** -/
theorem wellFormed_of_descriptor? {spec : TypeSpec} {d : Descriptor} (hspec : spec.WellFormed)
    (h : spec.descriptor? = some d) : d.WellFormed := by
  obtain ⟨name, definition⟩ := spec
  unfold TypeSpec.descriptor? at h
  split at h
  · rename_i body hbody
    obtain rfl := Option.some.inj h
    have hmethods : ∀ m ∈ body.methods, m.WellFormed := by
      have hdefinition := hspec.2
      rw [show definition = .interface body from hbody] at hdefinition
      exact hdefinition.methods
    refine ⟨hspec.1, fun m hm ↦ ?_⟩
    obtain ⟨spec, hspec, rfl⟩ := List.mem_map.1 hm
    exact hmethods spec hspec
  · rename_i sig hsig
    obtain rfl := Option.some.inj h
    have hfunction := hspec.2
    rw [show definition = .shape (.function sig) from hsig] at hfunction
    exact ⟨hspec.1, List.forall_mem_singleton.2 ⟨hspec.1, Shape.WellFormed.signature hfunction⟩⟩
  · cases h

/-- What the visitor of a pattern generates from is the descriptor of a declaration, and the pattern
applies to it. -/
theorem describeAs_of_check {p : Pattern} {spec : TypeSpec} {d : Descriptor}
    (h : p.check spec = .ok d) : spec.describeAs p.kind = .ok d ∧ p.validate d = .ok () := by
  obtain ⟨d', hdescribe, h⟩ := exists_of_bind_eq_ok h
  obtain ⟨_, hvalidate, h⟩ := exists_of_bind_eq_ok h
  obtain rfl := Except.ok.inj h
  exact ⟨hdescribe, hvalidate⟩

/-! ### Requests -/

namespace Catalogue

/-- A request to generate is a run of the first visitor of that name. -/
theorem outcome_implement (c : Catalogue) (package input name : String) :
    (c.implement package input name).outcome =
      match c.find? package name with
      | none => .error (.error (.unknownPattern name))
      | some v => (readInput input).outcome >>= fun file ↦ (v.runFresh file).outcome := by
  unfold implement
  cases c.find? package name with
  | none => rfl
  | some v =>
    dsimp only
    rw [Traced.outcome_bind]
    cases (readInput input).outcome with
    | error e => rfl
    | ok file =>
      simp only [Traced.outcome_bind, Traced.log, Traced.report, Traced.outcome_pure]
      change ((v.runFresh file).outcome >>= Except.ok) = (v.runFresh file).outcome
      cases (v.runFresh file).outcome <;> rfl

end Catalogue

end GoDecorator
