import GoDecorator.Proofs.Catalogue.Generation
import GoDecorator.Proofs.Catalogue.Probing

/-!
# Faults of templates

An error in a template is meant to be a fault of the generator. All templates are in order, and yet
there are inputs that end with such an error: the name of a type can be such that a name derived
from it is no identifier, and a signature can be such that it is written but not read.

`Descriptor.Clear` rules both out. It asks for names of types that do not start with the dotted
capital, and for signatures without a lone variadic result. **For a clear input there is no fault**
(`exists_generate_of_clear`), so an error in a template comes from one of the two forms of input
(`tier?_ne_template_of_clear`). Both forms do lead to one (`tier?_of_unclear`).

## From an input to the conditions of the patterns

Each pattern has a condition of its own for coming to declarations, about prepared methods and
derived names. A clear input meets all of them: preparing a method changes the names of types by a
package at most, which does not make a lone variadic result of another one, and a name that is
derived from a type without a dotted capital is an identifier. What is left are the types that a
pattern makes itself, of predicates and of getters, whose parts are types of the method.

## The other sources of errors

A request can also fail because the input cannot be read, because no pattern has the name, or
because the pattern does not apply. None of these is in the tier of templates (`tier?_readInput`).
-/

namespace GoDecorator

open Token Pattern

variable {package : String} {m : Method} {d : Descriptor}

/-! ### Clear input -/

/-- Nothing stands in the way of writing the method. -/
structure Method.Clear (package : String) (m : Method) : Prop where
  /-- No type has a name that starts with the dotted capital. -/
  undotted : ∀ p ∈ m.params ++ m.results, p.shape.IsUndotted
  /-- Its types can be read where they are qualified. -/
  shapes : ∀ p ∈ (m.qualified package).params ++ (m.qualified package).results, p.shape.Readable
  /-- Its result is not variadic if there is only one. -/
  lone : ∀ r, m.results = [r] → r.variadic = false

/-- Nothing stands in the way of writing the methods of the descriptor. -/
structure Descriptor.Clear (package : String) (d : Descriptor) : Prop where
  /-- The name does not start with the dotted capital. -/
  undotted : IsUndotted d.name
  /-- The methods are clear. -/
  methods : ∀ m ∈ d.methods, m.Clear package

namespace Method.Clear

/-- A function type with the results of a clear method can be read. -/
theorem readable_function (h : m.Clear package) {ps : List Param}
    (hps : ∀ p ∈ ps, p.shape.Readable) :
    (Shape.function ⟨ps, (m.qualified package).results⟩).Readable := by
  refine Shape.everywhere_function.2
    ⟨?_, hps, fun r hr ↦ h.shapes r (List.mem_append_right _ hr)⟩
  unfold Shape.isLoneVariadic
  split
  · rename_i heq
    -- The result would be variadic, and the only one.
    obtain ⟨-, hresults⟩ := SignatureOf.mk.inj (Shape.function.inj heq)
    rw [Method.qualified_results] at hresults
    obtain ⟨r, hr, heq⟩ := List.map_eq_singleton_iff.1 hresults
    have hvariadic := h.lone r hr
    simp [hvariadic] at heq
  · rfl

theorem readable_params_prepare (h : m.Clear package) (reserved : List String) :
    ∀ p ∈ (m.prepare package reserved).1.params, p.shape.Readable := by
  intro q hq
  obtain ⟨p, hmem, hpq⟩ := exists_of_mem_right (m.forall₂_prepare package reserved) hq
  rw [hpq.shape]
  exact h.shapes p (List.mem_append_left _ hmem)

/-- **The signature of a clear method can be written** once it is prepared. -/
theorem writable_prepare (h : m.Clear package) (hm : m.WellFormed) (hp : IsName package)
    (reserved : List String) : (m.prepare package reserved).1.signature.Writable :=
  have hnames : ∀ p ∈ m.params, p.shape.IsUndotted := fun p hp ↦
    h.undotted p (List.mem_append_left _ hp)
  ⟨isName_prepare_of_isUndotted hm hp hnames reserved,
    h.readable_function (h.readable_params_prepare reserved)⟩

theorem isUndotted_result (h : m.Clear package) :
    ∀ r ∈ (m.qualified package).results, r.shape.IsUndotted := by
  intro r hr
  rw [Method.qualified_results] at hr
  obtain ⟨r', hmem, rfl⟩ := List.mem_map.1 hr
  exact Shape.isUndotted_qualify (h.undotted r' (List.mem_append_right _ hmem))

end Method.Clear

/-! ### The conditions of the patterns -/

/-- The type of the predicates over parameters whose types can be read. -/
theorem Pattern.readable_predicateType {ps : List Param} (h : ∀ p ∈ ps, p.shape.Readable) :
    (predicateType ps).Readable := by
  refine Shape.everywhere_function.2 ⟨rfl, fun p hp ↦ ?_, List.forall_mem_singleton.2 ?_⟩
  · obtain ⟨q, hq, rfl⟩ := List.mem_map.1 hp
    exact h q hq
  · exact (by decide : (Shape.primitive .bool).Legible).readable

/-- The elements of a collection whose type can be read. -/
theorem Pattern.Collection.readable_element {s : Shape} {method : String}
    {place : CollectionPlace} {c : Collection} (h : ofShape s method place = .ok c)
    (hs : s.Readable) : c.element.Readable := by
  obtain ⟨hcollection, rfl⟩ := ofShape_eq_ok_iff.1 h
  have hshape : c.shape.Readable := by
    split at hs
    · exact (Shape.everywhere_pointer.1 hs).2
    · exact hs
  obtain ⟨shape, pointer⟩ := c
  cases shape with
  | slice elem => exact (Shape.everywhere_slice.1 hshape).2
  | map k v => exact (Shape.everywhere_map.1 hshape).2.2
  | _ => cases hcollection

namespace Method.Clear

theorem readable_filterParam (h : m.Clear package) {reserved : List String} {c : Collection}
    (hc : FilterParam.target (m.prepare package reserved).1 = .ok c) : c.element.Readable := by
  unfold FilterParam.target at hc
  split at hc
  · cases hc
  · rename_i p hp
    have hshape := h.readable_params_prepare reserved p (List.mem_of_getElem? hp)
    refine Collection.readable_element hc ?_
    -- A variadic parameter is a slice in the body.
    unfold ParamOf.bodyShape
    split
    · exact Shape.everywhere_slice.2 ⟨rfl, hshape⟩
    · exact hshape

theorem readable_filterReturn (h : m.Clear package) {reserved : List String} {c : Collection}
    (hc : FilterReturn.target (m.prepare package reserved).1 = .ok c) : c.element.Readable := by
  unfold FilterReturn.target at hc
  split at hc
  · cases hc
  · rename_i r hr
    exact Collection.readable_element hc
      (h.shapes r (List.mem_append_right _ (List.mem_of_mem_head? hr)))

end Method.Clear

theorem Pattern.Store.writable_of_clear (h : m.Clear package) (hm : m.WellFormed)
    (hp : IsName package) : Store.Writable package m := by
  refine ⟨fun r hr ↦ ?_, h.writable_prepare hm hp _⟩
  have hmem := List.mem_of_mem_head? hr
  have hproper := (Method.proper_results_qualified hm hp r hmem).1
  have hvalue := (Store.names package).isName_allocate
    (Shape.isName_variableName hproper (h.isUndotted_result r hmem))
  have hlock := isName_append (isName_iff.1 hvalue).1 (by decide : ∀ c ∈ "Lock".toList, _)
    ⟨'L', by decide, by decide⟩
  exact ⟨Names.isName_allocate _ hlock, hvalue, h.shapes r (List.mem_append_right _ hmem)⟩

/-- **A pattern that applies to a clear descriptor generates declarations.** -/
theorem exists_generate_of_clear {p : String → Pattern} (hmem : p ∈ standardPatterns)
    (hp : IsName package) (hwf : d.WellFormed) (hd : d.Clear package)
    (hv : (p package).validate d = .ok ()) :
    ∃ ds, ((p package).generate d).outcome = .ok ds := by
  have hanswer {x : Traced (List Decl)} {cond : Prop} {post : List Decl → Prop}
      (h : Yields x cond post) (hcond : cond) : ∃ ds, x.outcome = .ok ds := by
    obtain ⟨ds, hds, -⟩ := h.answer hcond
    exact ⟨ds, hds⟩
  have hsignatures (reserved : List String) : ∀ m ∈ d.methods,
      (m.prepare package reserved).1.signature.Writable :=
    fun m hm ↦ (hd.methods m hm).writable_prepare (hwf.methods m hm) hp reserved
  have hfield (taken : List String) : IsName (d.fieldName taken) :=
    Descriptor.isName_fieldName_of_isUndotted hwf.name hd.undotted taken
  have hwrapper (taken reserved : List String) : IsName (d.fieldName taken) ∧ ∀ m ∈ d.methods,
      (m.prepare package reserved).1.signature.Writable :=
    ⟨hfield taken, hsignatures reserved⟩
  have hstore : ∀ m ∈ d.methods, Store.Writable package m :=
    fun m hm ↦ Store.writable_of_clear (hd.methods m hm) (hwf.methods m hm) hp
  have hfilter (m : Method) (hm : m ∈ d.methods) {asked : List Param}
      (hasked : ∀ p ∈ asked, p.shape.Readable) : Filter.Writable package d m asked :=
    ⟨readable_predicateType hasked, hfield _, hsignatures _ m hm⟩
  simp only [standardPatterns, List.mem_cons, List.not_mem_nil, or_false] at hmem
  obtain rfl | rfl | rfl | rfl | rfl | rfl | rfl | rfl | rfl | rfl | rfl | rfl | rfl | rfl | rfl :=
    hmem
  · exact hanswer (Metrics.yields_generate (by decide) hwf hp) (hwrapper _ _)
  · exact hanswer (Metrics.yields_generate (by decide) hwf hp) (hwrapper _ _)
  · exact hanswer (Logging.yields_generate hwf hp) (hsignatures _)
  · exact hanswer (Tracing.yields_generate hwf hp hv) (hwrapper _ _)
  · refine hanswer (FileGetter.yields_generate hwf hp hv) fun m hm ↦
      (hd.methods m hm).readable_function fun p hp ↦ ?_
    obtain ⟨q, hq, rfl⟩ := List.mem_map.1 hp
    exact (hd.methods m hm).shapes q (List.mem_append_left _ hq)
  · exact hanswer (Store.yields_generate .abort hwf hp hv) hstore
  · exact hanswer (Store.yields_generate .withError hwf hp hv) hstore
  · exact hanswer (Cache.yields_generate hwf hp hv) (hwrapper _ _)
  · exact hanswer (Semaphore.yields_generate hwf hp) (hwrapper _ _)
  · exact hanswer (Throttle.yields_generate .noError hwf hp) (hwrapper _ _)
  · exact hanswer (Throttle.yields_generate .withError hwf hp) (hwrapper _ _)
  · exact hanswer (Filter.yields_generate .noError hwf hp hv) fun m hm ↦
      hfilter m hm ((hd.methods m hm).readable_params_prepare _)
  · exact hanswer (Filter.yields_generate .withError hwf hp hv) fun m hm ↦
      hfilter m hm ((hd.methods m hm).readable_params_prepare _)
  · exact hanswer (FilterParam.yields_generate hwf hp hv) fun m hm c hc ↦
      hfilter m hm (List.forall_mem_singleton.2 ((hd.methods m hm).readable_filterParam hc))
  · exact hanswer (FilterReturn.yields_generate hwf hp hv) fun m hm c hc ↦
      hfilter m hm (List.forall_mem_singleton.2 ((hd.methods m hm).readable_filterReturn hc))

/-! ### Requests -/

/-- The tier of a failure; a crash has none. -/
def Failure.tier? : Failure → Option Tier
  | .error e => some e.tier
  | .crash _ => none

/-- The tier of the error that an outcome is, if it is one. -/
def Outcome.tier? {α : Type} : Outcome α → Option Tier
  | .error f => f.tier?
  | .ok _ => none

/-- A run that meets a fault ends with an error in a template. -/
theorem Outcome.tier?_of_meetsFault {v : Visitor} {file : SourceFile} {e : Error}
    (h : v.MeetsFault file e) : (v.runFresh file).outcome.tier? = some .template := by
  rw [h.1]
  exact congrArg some h.2

/-- An input that cannot be read is no fault of a template. -/
theorem tier?_readInput {input : String} {f : Failure}
    (h : (readInput input).outcome = .error f) : f.tier? ≠ some .template := by
  have hcrash {source : String} {f : Failure} (h : parseSource source = .error f) :
      f.tier? ≠ some .template := by
    unfold parseSource at h
    split at h
    · obtain rfl := Except.error.inj h
      simp [Failure.tier?]
    · cases h
  rw [outcome_readInput] at h
  split at h
  · exact Except.error.inj h ▸ hcrash ‹_›
  · cases h
  · split at h
    · exact Except.error.inj h ▸ hcrash ‹_›
    · cases h
    · obtain rfl := Except.error.inj h
      simp [Failure.tier?, Error.tier]

/-- The first type declaration of a file is clear, if it is of a kind that can be generated for. -/
def SourceFile.IsClear (package : String) (file : SourceFile) : Prop :=
  ∀ spec ∈ firstSpec? (file.decls.flatMap Decl.nodes), ∀ d ∈ spec.descriptor?, d.Clear package

/-- The visitor of a pattern does not meet a fault in a clear file. -/
theorem tier?_runFresh_of_isClear {p : String → Pattern} (hmem : p ∈ standardPatterns)
    (hp : IsName package) {file : SourceFile} (hwf : ∀ d ∈ file.decls, d.WellFormed)
    (hclear : file.IsClear package) :
    ((Visitor.ofPattern (p package)).runFresh file).outcome.tier? ≠ some .template := by
  rw [Visitor.outcome_runFresh_ofPattern]
  split
  · simp [Outcome.tier?, Failure.tier?, Error.tier]
  · rename_i spec hspec
    split
    · simp [Outcome.tier?, Failure.tier?, Error.tier]
    · rename_i d hcheck
      obtain ⟨hdescribe, hv⟩ := describeAs_of_check hcheck
      have hdescriptor := descriptor?_of_describeAs hdescribe
      have hd := wellFormed_of_descriptor? (hwf _ (mem_decls_of_firstSpec? hspec)) hdescriptor
      obtain ⟨ds, hds⟩ := exists_generate_of_clear hmem hp hd (hclear spec hspec d hdescriptor) hv
      rw [hds]
      simp [Outcome.tier?]

/-- **A clear input does not lead to a fault of a template**, whichever pattern is asked for, and
neither does the search for the patterns that accept it. -/
theorem tier?_ne_template_of_clear (hp : IsName package) {input : String}
    (hclear : ∀ file, (readInput input).outcome = .ok file → file.IsClear package) :
    (∀ name, (Catalogue.standard.implement package input name).outcome.tier? ≠ some .template) ∧
      (Catalogue.standard.available package input).outcome.tier? ≠ some .template := by
  cases hinput : (readInput input).outcome with
  | error f =>
    have hread := tier?_readInput hinput
    refine ⟨fun name ↦ ?_, ?_⟩
    · rw [Catalogue.outcome_implement, hinput]
      split
      · simp [Outcome.tier?, Failure.tier?, Error.tier]
      · exact hread
    · rw [Catalogue.outcome_available, hinput]
      exact hread
  | ok file =>
    have hrun {p : String → Pattern} (hmem : p ∈ standardPatterns) :=
      tier?_runFresh_of_isClear hmem hp (wellFormed_of_readInput hinput) (hclear file hinput)
    refine ⟨fun name ↦ ?_, ?_⟩
    · rw [Catalogue.outcome_implement, hinput]
      split
      · simp [Outcome.tier?, Failure.tier?, Error.tier]
      · rename_i v hfind
        obtain ⟨p, hmem, rfl⟩ := exists_pattern_of_find? hfind
        exact hrun hmem
    · rw [Catalogue.outcome_available, hinput]
      have hnone : ∀ v ∈ Catalogue.standard.visitors package, ∀ e, ¬ v.MeetsFault file e := by
        intro v hv e hfault
        obtain ⟨p, hmem, rfl⟩ := exists_pattern_of_mem_visitors hv
        exact hrun hmem (Outcome.tier?_of_meetsFault hfault)
      change (Catalogue.accepting file (Catalogue.standard.visitors package)).outcome.tier? ≠ _
      rw [Catalogue.outcome_accepting hnone]
      simp [Outcome.tier?]

set_option maxRecDepth 8000 in
/-- An interface with one method whose argument is a slice is clear. -/
theorem tier?_ne_template_of_clear_slice :
    IsName "abc" ∧
      (∀ name, (Catalogue.standard.implement "abc" "type A interface\x7bM(x []B) error\x7d"
        name).outcome.tier? ≠ some .template) ∧
      (Catalogue.standard.available "abc" "type A interface\x7bM(x []B) error\x7d").outcome.tier? ≠
        some .template := by
  have hread : (readInput "type A interface\x7bM(x []B) error\x7d").outcome =
      .ok ⟨"whatever", [.type ⟨"A", .interface ⟨[⟨"M",
        ⟨[⟨some "x", .slice (.named none "B"), false⟩],
          [⟨none, .primitive .error, false⟩]⟩⟩], []⟩⟩]⟩ := by decide +kernel
  refine ⟨by decide, tier?_ne_template_of_clear (by decide) fun file hfile ↦ ?_⟩
  obtain rfl := Except.ok.inj (hread.symm.trans hfile)
  intro spec hspec d hd
  obtain rfl := Option.some.inj hspec
  obtain rfl := Option.some.inj hd
  refine ⟨by decide, List.forall_mem_singleton.2 ⟨?_, ?_, ?_⟩⟩
  · refine List.forall_mem_cons.2 ⟨?_, List.forall_mem_singleton.2 ?_⟩
    · exact Shape.everywhere_slice.2 ⟨trivial, Shape.everywhere_named.2 (by decide)⟩
    · exact Shape.everywhere_primitive.2 trivial
  · exact List.forall_mem_cons.2
      ⟨(by decide : (Shape.slice (.named (some "abc") "B")).Legible).readable,
        List.forall_mem_singleton.2 (by decide : (Shape.primitive .error).Legible).readable⟩
  · intro r hr
    obtain rfl := List.singleton_inj.1 hr
    rfl

set_option maxRecDepth 8000 in
/-- **Both forms of input lead to a fault**: a function whose only result is variadic, and a type
whose name starts with the dotted capital. -/
theorem tier?_of_unclear :
    IsName "abc" ∧
      (Catalogue.standard.implement "abc" "interface\x7bM(f func() (...int)) error\x7d"
        "filter").outcome.tier? = some .template ∧
      (Catalogue.standard.implement "abc" "type \u0130 interface\x7bM()\x7d"
        "prometheus").outcome.tier? = some .template ∧
      (Catalogue.standard.available "abc" "type \u0130 interface\x7bM()\x7d").outcome.tier? =
        some .template := by
  decide +kernel

end GoDecorator
