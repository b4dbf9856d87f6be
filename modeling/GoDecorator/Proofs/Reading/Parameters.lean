import GoDecorator.Proofs.Decl.Provenance
import GoDecorator.Proofs.Reading.Types

/-!
# Parameters and results in files that were read

What `resolveParams` settles for one list holds of every list in a file, since every signature of a
file is what the entries of two written lists resolve to (`Parser.ensures_file_isWrittenIn`). So
**every list of parameters or results in a file is all named or all unnamed**
(`resolveParams_grouping`).

It is different with variadic parameters. The parser takes dots in front of every type in a list, in
lists of results as well, and a group of names shares them. Where they may stand is not checked:
**only the last parameter of a signature is variadic, and no result is, exactly if the dots are
written so** (`variadicInPlace_iff`).
-/

namespace GoDecorator

open GoDecorator.Parser

/-- **The signatures of a file are written in its source.** -/
theorem isWrittenIn_of_parseSource {source : String} {f : SourceFile}
    (h : parseSource source = .ok (.ok f)) : ∃ tokens, Token.scan source = some tokens ∧
      ∀ sig ∈ f.signatures, IsWrittenIn tokens sig := by
  obtain ⟨tokens, rest, hscan, hrun⟩ := exists_run_of_parseSource h
  exact ⟨tokens, hscan, (ensures_file_isWrittenIn tokens (List.suffix_refl _) f rest hrun).1⟩

/-! ### Names -/

/-- **Groups of parameters.** The entries of a list resolve exactly if no entry has both a name and
a type, or if none is a type alone and the last one has both. Then there is one parameter for each
entry. In the first case all of them are types, an identifier alone included. In the second case all
of them have names, and an identifier alone has the type and the dots of the nearest entry to its
right with both. In particular each list of parameters or results in a file is all named or all
unnamed. -/
theorem resolveParams_grouping :
    (∀ es : List ParamEntry, (∃ ps, resolveParams es = .ok ps) ↔
      (∀ e ∈ es, e.isNamed = false) ∨
        (∀ e ∈ es, e.isBare = false) ∧ ∃ e ∈ es.getLast?, e.isNamed = true) ∧
    (∀ es ps, resolveParams es = .ok ps →
      ((∀ e ∈ es, e.isNamed = false) → ReadAsTypes es ps) ∧
        ((∃ e ∈ es, e.isNamed = true) → ReadAsNames es ps)) ∧
    ∀ source f, parseSource source = .ok (.ok f) →
      ∀ sig ∈ f.signatures, IsUniform sig.params ∧ IsUniform sig.results := by
  refine ⟨fun es ↦ exists_resolveParams_iff, fun es ps h ↦
    ⟨readAsTypes_of_resolveParams h, readAsNames_of_resolveParams h⟩, fun source f h sig hsig ↦ ?_⟩
  obtain ⟨tokens, -, hwritten⟩ := isWrittenIn_of_parseSource h
  obtain ⟨ts, es, fs, -, hat⟩ := hwritten sig hsig
  exact ⟨isUniform_of_resolveParams hat.params, isUniform_of_resolveParams hat.results⟩

/-- A group of two names, in a list with another list inside it that has no names. -/
theorem resolveParams_grouping_nested :
    (∃ ps, resolveParams [.lone "a" .unknown, .named "b" (.primitive .string) false] = .ok ps ∧
      ReadAsNames [.lone "a" .unknown, .named "b" (.primitive .string) false] ps) ∧
    ∃ f sig, parseSource "package p\n\ntype F func(a, b string, g func(int, ...error))\n" =
        .ok (.ok f) ∧ sig ∈ f.signatures ∧ sig.params.length = 3 ∧
      IsUniform sig.params ∧ IsUniform sig.results := by
  obtain ⟨hresolves, hread, huniform⟩ := resolveParams_grouping
  obtain ⟨ps, hps⟩ := (hresolves [.lone "a" .unknown, .named "b" (.primitive .string) false]).2
    (.inr (by decide))
  have hf : parseSource "package p\n\ntype F func(a, b string, g func(int, ...error))\n" =
      .ok (.ok ⟨"p", [.type ⟨"F", .shape (.function ⟨[⟨some "a", .primitive .string, false⟩,
        ⟨some "b", .primitive .string, false⟩,
        ⟨some "g", .function
          ⟨[⟨none, .primitive .int, false⟩, ⟨none, .primitive .error, true⟩], []⟩,
          false⟩], []⟩)⟩]⟩) := by
    decide +kernel
  exact ⟨⟨ps, hps, (hread _ ps hps).2 (by decide)⟩, _, _, hf, List.mem_cons_self .., rfl,
    huniform _ _ hf _ (List.mem_cons_self ..)⟩

/-! ### Dots -/

/-- Only the last parameter of the signature is variadic, if any is, and no result is. -/
def SignatureOf.VariadicInPlace (sig : Signature) : Prop :=
  VariadicLast sig.params ∧ ∀ r ∈ sig.results, r.variadic = false

/-- **Variadic parameters are where the dots are written.** Every signature of a file is read from
entries in its source, and only its last parameter is variadic, and no result, exactly if the dots
of the parameters are in place and there are none in the results. -/
theorem variadicInPlace_iff {source : String} {f : SourceFile}
    (h : parseSource source = .ok (.ok f)) {sig : Signature} (hsig : sig ∈ f.signatures) :
    ∃ tokens ts es fs, Token.scan source = some tokens ∧ ts <:+ tokens ∧
      SignatureAt sig es fs ts ∧
      (sig.VariadicInPlace ↔ DotsInPlace es ∧ ∀ e ∈ fs, e.isDotted = false) := by
  obtain ⟨tokens, hscan, hwritten⟩ := isWrittenIn_of_parseSource h
  obtain ⟨ts, es, fs, hts, hat⟩ := hwritten sig hsig
  exact ⟨tokens, ts, es, fs, hscan, hts, hat, and_congr (variadicLast_iff hat.params)
    (forall_variadic_eq_false_iff hat.results)⟩

/-- A signature with its dots in place, inside the value of a variable. -/
theorem variadicInPlace_iff_value :
    ∃ f sig, parseSource "package p\n\nvar v = []func(a, b int, c ...error) int\x7b\x7d\n" =
        .ok (.ok f) ∧ sig ∈ f.signatures ∧ sig.params.length = 3 ∧
      ∃ tokens ts es fs,
        Token.scan "package p\n\nvar v = []func(a, b int, c ...error) int\x7b\x7d\n" = some tokens ∧
          ts <:+ tokens ∧ SignatureAt sig es fs ts ∧
          (sig.VariadicInPlace ↔ DotsInPlace es ∧ ∀ e ∈ fs, e.isDotted = false) := by
  have hf : parseSource "package p\n\nvar v = []func(a, b int, c ...error) int\x7b\x7d\n" =
      .ok (.ok ⟨"p", [.var ⟨"v", none, some (.composite (.slice (.function
        ⟨[⟨some "a", .primitive .int, false⟩, ⟨some "b", .primitive .int, false⟩,
          ⟨some "c", .primitive .error, true⟩], [⟨none, .primitive .int, false⟩]⟩)))⟩]⟩) := by
    decide +kernel
  have hsig := List.mem_singleton_self (⟨[⟨some "a", .primitive .int, false⟩,
    ⟨some "b", .primitive .int, false⟩, ⟨some "c", .primitive .error, true⟩],
    [⟨none, .primitive .int, false⟩]⟩ : Signature)
  exact ⟨_, _, hf, hsig, rfl, variadicInPlace_iff hf hsig⟩

/-- **Variadic parameters need not be in place**: one before the last, and a result. -/
theorem not_variadicInPlace :
    ∃ f sig, parseSource "package p\n\ntype F func(a ...int, b int) (...int)\n" = .ok (.ok f) ∧
      sig ∈ f.signatures ∧ ¬ VariadicLast sig.params ∧ ¬ ∀ r ∈ sig.results, r.variadic = false := by
  have hf : parseSource "package p\n\ntype F func(a ...int, b int) (...int)\n" =
      .ok (.ok ⟨"p", [.type ⟨"F", .shape (.function ⟨[⟨some "a", .primitive .int, true⟩,
        ⟨some "b", .primitive .int, false⟩], [⟨none, .primitive .int, true⟩]⟩)⟩]⟩) := by
    decide +kernel
  refine ⟨_, _, hf, List.mem_cons_self .., fun hlast ↦ ?_, by decide⟩
  cases hlast 0 _ rfl rfl

end GoDecorator
