import GoDecorator.Proofs.Catalogue.Running
import GoDecorator.Proofs.Pattern.Admission
import GoDecorator.Proofs.Pattern.Filtering
import GoDecorator.Proofs.Pattern.Observation
import GoDecorator.Proofs.Pattern.Retention

/-!
# What the generator generates

The patterns that come with the generator, taken together. `yields_standard` says that **each of
them comes to stable declarations or to a fault of a template**, whatever well-formed input it
applies to. So what is generated can be printed and read again, as a whole and one by one
(`implement_round_trip`).

The condition under which there are declarations is different for each pattern, and here it is only
said to exist. A request that is answered has met it, so for the round trip it does not matter what
it is. That an input is well-formed does not have to be asked for either, since it was read by the
parser.
-/

namespace GoDecorator

open Token Pattern

/-- An outcome that is an answer. -/
theorem exists_of_isOk {α : Type} {o : Outcome α} (h : o.isOk = true) : ∃ a, o = .ok a := by
  cases o with
  | error e => cases h
  | ok a => exact ⟨a, rfl⟩

/-! ### Declarations or a fault -/

/-- **Each pattern comes to stable declarations or to a fault of a template.** -/
theorem yields_standard {p : String → Pattern} (hp : p ∈ standardPatterns) {package : String}
    (hpackage : IsName package) {d : Descriptor} (hd : d.WellFormed)
    (hv : (p package).validate d = .ok ()) :
    ∃ cond, Yields ((p package).generate d) cond fun ds ↦ ∀ decl ∈ ds, decl.Stable := by
  have hwraps {x : Traced (List Decl)} {cond : Prop} {receiver name : String}
      {ms : List Method} (h : Yields x cond (Wraps receiver name ms)) :
      ∃ cond, Yields x cond fun ds ↦ ∀ decl ∈ ds, decl.Stable :=
    ⟨cond, h.mono fun _ hds ↦ hds.stable⟩
  simp only [standardPatterns, List.mem_cons, List.not_mem_nil, or_false] at hp
  obtain rfl | rfl | rfl | rfl | rfl | rfl | rfl | rfl | rfl | rfl | rfl | rfl | rfl | rfl | rfl :=
    hp
  · exact hwraps (Metrics.yields_generate (by decide) hd hpackage)
  · exact hwraps (Metrics.yields_generate (by decide) hd hpackage)
  · exact hwraps (Logging.yields_generate hd hpackage)
  · exact hwraps (Tracing.yields_generate hd hpackage hv)
  · exact ⟨_, FileGetter.yields_generate hd hpackage hv⟩
  · exact ⟨_, Store.yields_generate .abort hd hpackage hv⟩
  · exact ⟨_, Store.yields_generate .withError hd hpackage hv⟩
  · exact hwraps (Cache.yields_generate hd hpackage hv)
  · exact hwraps (Semaphore.yields_generate hd hpackage)
  · exact hwraps (Throttle.yields_generate .noError hd hpackage)
  · exact hwraps (Throttle.yields_generate .withError hd hpackage)
  · exact ⟨_, Filter.yields_generate .noError hd hpackage hv⟩
  · exact ⟨_, Filter.yields_generate .withError hd hpackage hv⟩
  · exact ⟨_, FilterParam.yields_generate hd hpackage hv⟩
  · exact ⟨_, FilterReturn.yields_generate hd hpackage hv⟩

/-- A visitor of the standard catalogue is that of a pattern. -/
theorem exists_pattern_of_mem_visitors {package : String} {v : Visitor}
    (h : v ∈ Catalogue.standard.visitors package) :
    ∃ p ∈ standardPatterns, v = .ofPattern (p package) := by
  simp only [Catalogue.visitors, Catalogue.standard, List.map_map, List.mem_map] at h
  obtain ⟨p, hp, rfl⟩ := h
  exact ⟨p, hp, rfl⟩

/-- So is the visitor of a given name. -/
theorem exists_pattern_of_find? {package name : String} {v : Visitor}
    (h : Catalogue.standard.find? package name = some v) :
    ∃ p ∈ standardPatterns, v = .ofPattern (p package) :=
  exists_pattern_of_mem_visitors (List.mem_of_find?_eq_some h)

/-- What a request to the standard catalogue came to: the pattern generated from the first type
declaration of the input. -/
theorem exists_generate_of_implement {package input name : String} {ds : List Decl}
    (h : (Catalogue.standard.implement package input name).outcome = .ok ds) :
    ∃ p ∈ standardPatterns, ∃ d : Descriptor, d.WellFormed ∧ (p package).validate d = .ok () ∧
      ((p package).generate d).outcome = .ok ds := by
  rw [Catalogue.outcome_implement] at h
  cases hfind : Catalogue.standard.find? package name with
  | none => rw [hfind] at h; cases h
  | some v =>
    rw [hfind] at h
    obtain ⟨p, hp, rfl⟩ := exists_pattern_of_find? hfind
    cases hinput : (readInput input).outcome with
    | error e => simp only [hinput] at h; cases h
    | ok file =>
      simp only [hinput] at h
      change ((Visitor.ofPattern (p package)).runFresh file).outcome = .ok ds at h
      rw [Visitor.outcome_runFresh_ofPattern] at h
      split at h
      · cases h
      · rename_i spec hspec
        split at h
        · cases h
        · rename_i d hcheck
          have hspecs := wellFormed_of_readInput hinput _ (mem_decls_of_firstSpec? hspec)
          obtain ⟨hdescribe, hv⟩ := describeAs_of_check hcheck
          have hd := wellFormed_of_descriptor? hspecs (descriptor?_of_describeAs hdescribe)
          exact ⟨p, hp, d, hd, hv, h⟩

/-- **What is generated can be printed and read again.** The printed declarations make up a file
that is read as the same declarations, and each of them alone is read as itself. -/
theorem implement_round_trip {package : String} (hp : IsName package) {input name : String}
    {ds : List Decl}
    (h : (Catalogue.standard.implement package input name).outcome = .ok ds) :
    parseSource ("package abc\n\n" ++ printDecls ds ++ "\n") = .ok (.ok ⟨"abc", ds⟩) ∧
      ∀ d ∈ ds, Decl.read d.text = .ok d := by
  obtain ⟨p, hmem, d, hd, hv, hgenerate⟩ := exists_generate_of_implement h
  obtain ⟨cond, hyields⟩ := yields_standard hmem hp hd hv
  have hstable := hyields.of_answer hgenerate
  refine ⟨parseSource_of_writes ?_, fun d hd ↦ read_of_writes (hstable d hd)⟩
  exact List.forall₂_map_left_iff.2 (List.forall₂_same.2 hstable)

set_option maxRecDepth 8000 in
/-- The log for an interface with one method is generated, and can be read again. -/
theorem implement_round_trip_slog :
    ∃ ds, (Catalogue.standard.implement "abc" "type A interface\x7bM(x int) error\x7d"
        "slog").outcome = .ok ds ∧
      parseSource ("package abc\n\n" ++ printDecls ds ++ "\n") = .ok (.ok ⟨"abc", ds⟩) ∧
      ∀ d ∈ ds, Decl.read d.text = .ok d := by
  obtain ⟨ds, hds⟩ : ∃ ds, (Catalogue.standard.implement "abc"
      "type A interface\x7bM(x int) error\x7d" "slog").outcome = .ok ds :=
    exists_of_isOk (by decide +kernel)
  exact ⟨ds, hds, implement_round_trip (by decide) hds⟩

end GoDecorator
