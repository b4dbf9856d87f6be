import GoDecorator.Proofs.Catalogue.Generation
import GoDecorator.Proofs.Catalogue.Probing

/-!
# Nothing crashes

A computation crashes where it reads a text without tokens or looks for an element that is not
there. **Neither happens on the way from an input to generated code**, whatever the input and the
package are (`standard_never_crashes`).

## Reading

A text has no tokens only if it ends with a backslash, and every text that is read has a line break
put after it. That is true of the input, of the declaration that an expression or a type is read as,
and of what comes of a template.

## Elements that are looked for

An element is looked for in the parameters or results of a prepared method, and it is there because
the method was checked before it was prepared. The check is about the method as it was read, and
preparing a method changes neither the number of its parameters nor that of its results. For the
same reason a pattern that applies to a descriptor does not turn it down afterwards.

`Traced.IsSafe` says that a computation does neither, and the rules for it follow the way in which
patterns put their steps together. Each pattern has a lemma of its own, and `isSafe_generate` goes
through the catalogue.

## What total functions hide

A definition may have an answer in cases that cannot come up: a difference that would be negative, a
list without its first or last element where there is none, an entry with a name among types. Then
it is no crash but a wrong answer that would be given there. `Guarded` says of each such case that
it does not come up.
-/

namespace GoDecorator

open Pattern

/-! ### Safe computations -/

namespace Traced

variable {α β : Type} {x : Traced α}

/-- The computation does not crash, and it does not turn the input down. -/
def IsSafe (x : Traced α) : Prop :=
  ∀ f, x.outcome = .error f → ∃ e, f = .error e ∧ e.tier ≠ .validation

/-- A computation that has a result is safe. -/
theorem isSafe_of_outcome {a : α} (h : x.outcome = .ok a) : x.IsSafe := by
  intro f hf
  rw [h] at hf
  cases hf

/-- A result is safe. -/
theorem isSafe_pure (a : α) : (pure a : Traced α).IsSafe := isSafe_of_outcome (outcome_pure a)

/-- One step after the other. -/
theorem IsSafe.bind {g : α → Traced β} (hx : x.IsSafe)
    (hg : ∀ a, x.outcome = .ok a → (g a).IsSafe) : (x >>= g).IsSafe := by
  intro f hf
  rw [outcome_bind] at hf
  cases hout : x.outcome with
  | error f' =>
    rw [hout] at hf
    exact Except.error.inj hf ▸ hx f' hout
  | ok a =>
    rw [hout] at hf
    exact hg a hout f hf

/-- The same step for each element of a list. -/
theorem IsSafe.mapM {g : α → Traced β} {as : List α} (h : ∀ a ∈ as, (g a).IsSafe) :
    (as.mapM g).IsSafe := by
  induction as with
  | nil => exact isSafe_pure []
  | cons a as ih =>
    rw [List.mapM_cons]
    obtain ⟨ha, has⟩ := List.forall_mem_cons.1 h
    exact ha.bind fun b _ ↦ (ih has).bind fun bs _ ↦ isSafe_pure (b :: bs)

/-- A check that has passed. -/
theorem isSafe_ofCheck {check : Check α} {a : α} (h : check = .ok a) : (ofCheck check).IsSafe := by
  rw [h]
  exact isSafe_pure a

/-- An element that is there. -/
theorem isSafe_elementAt {xs : List α} {i : Nat} (h : i < xs.length) :
    (ofOutcome (elementAt xs i)).IsSafe := by
  refine isSafe_of_outcome (a := xs.get ⟨i, h⟩) ?_
  rw [outcome_ofOutcome, elementAt, List.getElem?_eq_getElem h]
  rfl

/-- An element that is there can be replaced. -/
theorem isSafe_replaceAt {xs : List α} {i : Nat} (h : i < xs.length) (y : α) :
    (ofOutcome (replaceAt xs i y)).IsSafe :=
  isSafe_of_outcome (by rw [outcome_ofOutcome, replaceAt, if_pos h])

end Traced

open Traced

/-! ### Reading -/

/-- **A text that does not end with a backslash is read without a crash.** -/
theorem exists_parseSource {source : String} (h : source.toList.getLast? ≠ some '\\') :
    ∃ r, parseSource source = .ok r := by
  obtain ⟨ts, hts⟩ := Token.exists_scanFrom h 0 1
  exact ⟨_, by rw [parseSource, Token.scan, hts]⟩

/-- With a line break after it, no text ends with a backslash. -/
theorem getLast?_append_newline (text : String) : (text ++ "\n").toList.getLast? ≠ some '\\' := by
  simp

/-- A fragment is read without a crash, since a line break follows it. -/
theorem exists_parseDecl (text : String) : ∃ r, parseDecl text = .ok r := by
  obtain ⟨r, hr⟩ := exists_parseSource (getLast?_append_newline ("package abc\n\n" ++ text))
  unfold parseDecl
  rw [hr]
  rcases r with e | ⟨package, _ | ⟨d, _ | ⟨d', ds⟩⟩⟩
  all_goals exact ⟨_, rfl⟩

/-- Output that cannot be read is no fault of the input. -/
theorem isSafe_orUnreadable {α : Type} (fragment : Fragment) (text : String)
    (r : Except ParseError α) : (ofOutcome (orUnreadable fragment text r)).IsSafe := by
  cases r with
  | ok a => exact isSafe_of_outcome rfl
  | error e =>
    intro f hf
    obtain rfl := Except.error.inj hf
    exact ⟨_, rfl, by simp [Error.tier]⟩

/-- Reading a declaration back is safe. -/
theorem isSafe_readDecl (text : String) : (ofOutcome (Decl.read text)).IsSafe := by
  obtain ⟨r, hr⟩ := exists_parseDecl text
  rw [Decl.read, hr]
  exact isSafe_orUnreadable _ _ _

/-- Reading a type back is safe. -/
theorem isSafe_readShape (text : String) : (ofOutcome (Shape.read text)).IsSafe := by
  obtain ⟨r, hr⟩ := exists_parseDecl ("type abc " ++ text)
  rw [Shape.read, hr]
  exact isSafe_orUnreadable _ _ _

/-- Reading an expression back is safe. -/
theorem isSafe_readExpr (text : String) : (ofOutcome (Expr.read text)).IsSafe := by
  obtain ⟨r, hr⟩ := exists_parseDecl ("var abc = " ++ text)
  rw [Expr.read, hr]
  exact isSafe_orUnreadable _ _ _

/-! ### Templates -/

namespace Template

/-- What is wrong with the text of a template is an error in a template. -/
theorem tier_of_piecesFrom :
    (∀ offset reversed cs e, piecesFrom offset reversed cs = .error e → e.tier = .template) ∧
      ∀ offset reversed cs e, placeholderFrom offset reversed cs = .error e →
        e.tier = .template := by
  apply piecesFrom.mutual_induct
  · -- the end of the text
    intro offset reversed e h
    rw [piecesFrom] at h
    cases h
  · -- two opening braces
    intro offset reversed cs ih e h
    rw [piecesFrom] at h
    exact ih e (eq_error_of_bind_ok h)
  · -- another character
    intro offset reversed c cs hne ih e h
    rw [piecesFrom.eq_3 offset reversed c cs hne] at h
    exact ih e h
  · -- a placeholder that is not closed
    intro offset reversed e h
    rw [placeholderFrom] at h
    obtain rfl := Except.error.inj h
    rfl
  · -- two closing braces after a name
    intro offset reversed cs name hname ih e h
    rw [placeholderFrom] at h
    simp only [name, hname] at h
    exact ih e (eq_error_of_bind_ok h)
  · -- two closing braces after something else
    intro offset reversed cs name hname _ e h
    rw [placeholderFrom] at h
    simp only [name, hname] at h
    obtain rfl := Except.error.inj h
    rfl
  · -- one closing brace
    intro offset reversed cs hne e h
    rw [placeholderFrom.eq_3 offset reversed cs hne] at h
    obtain rfl := Except.error.inj h
    rfl
  · -- another character of the name
    intro offset reversed c cs hne hne' ih e h
    rw [placeholderFrom.eq_4 offset reversed c cs hne hne'] at h
    exact ih e h

/-- A placeholder without a value is an error in a template. -/
theorem tier_of_fill {bindings : Bindings} {ps : List Piece} {e : Error}
    (h : fill bindings ps = .error e) : e.tier = .template := by
  induction ps with
  | nil => cases h
  | cons p ps ih =>
    cases p with
    | literal t =>
      rw [fill] at h
      exact ih (eq_error_of_bind_ok h)
    | placeholder name =>
      rw [fill] at h
      split at h
      · obtain rfl := Except.error.inj h
        rfl
      · exact ih (eq_error_of_bind_ok h)

/-- **A template that cannot be filled in is an error in a template.** -/
theorem tier_of_instantiate {bindings : Bindings} {template : String} {e : Error}
    (h : instantiate bindings template = .error e) : e.tier = .template := by
  unfold instantiate at h
  cases hpieces : pieces template with
  | error e' =>
    rw [hpieces] at h
    obtain rfl := Except.error.inj h
    exact tier_of_piecesFrom.1 _ _ _ _ hpieces
  | ok ps =>
    rw [hpieces] at h
    change (fill bindings ps >>= _) = _ at h
    cases hfill : fill bindings ps with
    | error e' =>
      rw [hfill] at h
      exact Except.error.inj h ▸ tier_of_fill hfill
    | ok text =>
      rw [hfill, ok_bind] at h
      split at h
      · obtain rfl := Except.error.inj h
        rfl
      · cases h

end Template

/-- Filling in a template and reading the text is safe. -/
theorem isSafe_renderDecl (bindings : Template.Bindings) (template : String) :
    (renderDecl bindings template).IsSafe := by
  cases h : Template.instantiate bindings template with
  | error e =>
    intro f hf
    rw [renderDecl, Traced.outcome_bind, Template.render, h] at hf
    obtain rfl := Except.error.inj hf
    exact ⟨e, rfl, by rw [Template.tier_of_instantiate h]; simp⟩
  | ok text =>
    intro f hf
    rw [outcome_renderDecl h] at hf
    exact isSafe_readDecl _ f hf

/-! ### Patterns -/

variable {package : String} {m : Method} {d : Descriptor}

/-- A struct, a constructor and the methods. -/
theorem isSafe_wrapper {struct constructor : Traced Decl} {method : Method → Traced Decl}
    {ms : List Method} (hs : struct.IsSafe) (hc : constructor.IsSafe)
    (hm : ∀ m ∈ ms, (method m).IsSafe) :
    (do
      let struct ← struct
      let constructor ← constructor
      let methods ← ms.mapM method
      return struct :: constructor :: methods).IsSafe :=
  hs.bind fun _ _ ↦ hc.bind fun _ _ ↦ (IsSafe.mapM hm).bind fun _ _ ↦ isSafe_pure _

theorem isSafe_metrics (backend package : String) (d : Descriptor) :
    ((metrics backend package).generate d).IsSafe := by
  refine isSafe_wrapper (isSafe_renderDecl _ _) (isSafe_renderDecl _ _) fun m _ ↦ ?_
  unfold Metrics.method
  dsimp only
  split
  · exact isSafe_renderDecl _ _
  · exact isSafe_renderDecl _ _

theorem isSafe_slog (package : String) (d : Descriptor) : ((slog package).generate d).IsSafe :=
  isSafe_wrapper (isSafe_renderDecl _ _) (isSafe_renderDecl _ _) fun _ _ ↦ isSafe_renderDecl _ _

/-- A method that is traced takes a context, which is replaced in the call. -/
theorem isSafe_tracing (hv : (tracing package).validate d = .ok ()) :
    ((tracing package).generate d).IsSafe := by
  refine isSafe_wrapper (isSafe_renderDecl _ _) (isSafe_renderDecl _ _) fun m hm ↦ ?_
  have htakes := Tracing.takesContext_of_expectTraceable (d.of_forEachMethod hv m hm)
  obtain ⟨p, ps, hparams, -⟩ := Method.exists_params_of_takesContext htakes
  have hlength : 0 < (m.prepare package Tracing.locals).1.callArgs.length := by
    simp [Method.callArgs, hparams]
  exact (isSafe_replaceAt hlength _).bind fun _ _ ↦ isSafe_renderDecl _ _

/-- The prepared method has a first result. -/
theorem length_results_pos (h : m.expectValueAndError = .ok ()) (package : String) :
    0 < (m.qualified package).results.length := by
  obtain ⟨r, s, hresults⟩ := exists_result_qualified h package
  simp [hresults]

/-- The one method of a descriptor. -/
theorem isSafe_singleMethod {α : Type} {g : Method → Traced α} (hmethods : d.methods = [m])
    (hg : (g m).IsSafe) : (Traced.ofCheck d.singleMethod >>= g).IsSafe := by
  rw [d.singleMethod_eq hmethods]
  change (pure m >>= g).IsSafe
  rw [pure_bind]
  exact hg

theorem isSafe_fileGetter (hv : (fileGetter package).validate d = .ok ()) :
    ((fileGetter package).generate d).IsSafe := by
  obtain ⟨m, hmethods, hcheck⟩ := d.of_singleMethod hv
  exact isSafe_singleMethod hmethods <|
    (isSafe_elementAt (length_results_pos hcheck package)).bind fun _ _ ↦
      (isSafe_renderDecl _ _).bind fun _ _ ↦ isSafe_pure _

theorem isSafe_loadArgs (m : Method) : (ofOutcome (Store.loadArgs m)).IsSafe := by
  unfold Store.loadArgs
  split
  · intro f hf
    cases hread : Expr.read "context.Background()" with
    | ok e => rw [hread] at hf; cases hf
    | error f' =>
      rw [hread] at hf
      exact Except.error.inj hf ▸ isSafe_readExpr _ f' hread
  · exact isSafe_pure []

theorem isSafe_store {mode : Store.Mode} (hv : (store mode package).validate d = .ok ()) :
    ((store mode package).generate d).IsSafe := by
  obtain ⟨m, hmethods, hcheck⟩ := Store.exists_method_of_validate hv
  have hlength : 0 < (m.prepare package Store.locals).1.results.length := by
    rw [m.results_prepare]
    exact length_results_pos hcheck package
  exact isSafe_singleMethod hmethods <|
    (isSafe_elementAt hlength).bind fun _ _ ↦ (isSafe_loadArgs _).bind fun _ _ ↦
      (isSafe_renderDecl _ _).bind fun _ _ ↦ (isSafe_renderDecl _ _).bind fun _ _ ↦
        (isSafe_renderDecl _ _).bind fun _ _ ↦ (isSafe_renderDecl _ _).bind fun _ _ ↦
          (isSafe_renderDecl _ _).bind fun _ _ ↦ isSafe_pure _

theorem isSafe_cache (hv : (cache package).validate d = .ok ()) :
    ((cache package).generate d).IsSafe := by
  refine isSafe_wrapper (isSafe_renderDecl _ _) (isSafe_renderDecl _ _) fun m hm ↦ ?_
  have hlength : 0 < (m.prepare package Cache.locals).1.results.length := by
    rw [m.results_prepare]
    exact length_results_pos (d.of_forEachMethod hv m hm) package
  exact (isSafe_elementAt hlength).bind fun _ _ ↦ isSafe_renderDecl _ _

/-- The semaphore looks for nothing. -/
theorem isSafe_semaphore (package : String) (d : Descriptor) :
    ((semaphore package).generate d).IsSafe := by
  refine isSafe_wrapper (isSafe_renderDecl _ _) (isSafe_renderDecl _ _) fun m _ ↦ ?_
  unfold Semaphore.method
  dsimp only
  split
  · exact isSafe_renderDecl _ _
  · exact (isSafe_readExpr _).bind fun _ _ ↦ isSafe_renderDecl _ _

theorem isSafe_throttle (mode : Throttle.Mode) (package : String) (d : Descriptor) :
    ((throttle mode package).generate d).IsSafe := by
  have hsentinel : (Throttle.sentinelDecls mode).IsSafe := by
    cases mode with
    | noError => exact isSafe_pure []
    | withError => exact (isSafe_readDecl _).bind fun _ _ ↦ isSafe_pure _
  exact hsentinel.bind fun _ _ ↦ (isSafe_renderDecl _ _).bind fun _ _ ↦
    (isSafe_renderDecl _ _).bind fun _ _ ↦ (isSafe_readDecl _).bind fun _ _ ↦
      (IsSafe.mapM fun _ _ ↦ isSafe_renderDecl _ _).bind fun _ _ ↦ isSafe_pure _

/-- The common parts of the filters look for nothing. -/
theorem isSafe_filterWrapper (package : String) (d : Descriptor) (predicate : Shape) :
    (Filter.wrapper package d predicate).IsSafe :=
  (isSafe_renderDecl _ _).bind fun _ _ ↦ (isSafe_renderDecl _ _).bind fun _ _ ↦ isSafe_pure _

theorem isSafe_filter {mode : Filter.Mode} (hv : (filter mode package).validate d = .ok ()) :
    ((filter mode package).generate d).IsSafe := by
  obtain ⟨m, hmethods, -⟩ := d.of_singleMethod hv
  have hsentinel : (Filter.sentinelDecls mode).IsSafe := by
    cases mode with
    | noError => exact isSafe_pure []
    | withError => exact (isSafe_readDecl _).bind fun _ _ ↦ isSafe_pure _
  exact isSafe_singleMethod hmethods <| (isSafe_readShape _).bind fun _ _ ↦
    (isSafe_filterWrapper _ _ _).bind fun _ _ ↦ (isSafe_renderDecl _ _).bind fun _ _ ↦
      hsentinel.bind fun _ _ ↦ isSafe_pure _

/-- The collection among the parameters is found again, and so is its argument. -/
theorem isSafe_filterParam (hv : (filterParam package).validate d = .ok ()) :
    ((filterParam package).generate d).IsSafe := by
  obtain ⟨m, c₀, hmethods, hc₀⟩ := FilterParam.exists_target_of_validate hv
  obtain ⟨p, c, hp, -, htarget⟩ := FilterParam.exists_target_prepare hc₀ package Filter.locals
  obtain ⟨hindex, -⟩ := List.getElem?_eq_some_iff.1 hp
  have hargs : FilterParam.targetIndex (m.prepare package Filter.locals).1 <
      (m.prepare package Filter.locals).1.callArgs.length := by
    rw [Method.callArgs, List.length_map]
    exact hindex
  exact isSafe_singleMethod hmethods <| (isSafe_ofCheck htarget).bind fun _ _ ↦
    (isSafe_readShape _).bind fun _ _ ↦ (isSafe_filterWrapper _ _ _).bind fun _ _ ↦
      (isSafe_elementAt hindex).bind fun _ _ ↦ (isSafe_replaceAt hargs _).bind fun _ _ ↦
        (isSafe_renderDecl _ _).bind fun _ _ ↦ isSafe_pure _

/-- The collection among the results is found again, and there is a name for it. -/
theorem isSafe_filterReturn (hv : (filterReturn package).validate d = .ok ()) :
    ((filterReturn package).generate d).IsSafe := by
  obtain ⟨m, c₀, hmethods, hc₀⟩ := FilterReturn.exists_target_of_validate hv
  obtain ⟨r, rs, c, hresults, -, htarget⟩ :=
    FilterReturn.exists_target_prepare hc₀ package Filter.locals
  have hnames := FilterReturn.resultNames_ne_nil (hresults ▸ List.cons_ne_nil r rs)
    (m.prepare package Filter.locals).2
  have hlength := List.length_pos_iff.2 (mt (List.map_eq_nil_iff (f := Expr.ident)).1 hnames)
  exact isSafe_singleMethod hmethods <| (isSafe_ofCheck htarget).bind fun _ _ ↦
    (isSafe_readShape _).bind fun _ _ ↦ (isSafe_filterWrapper _ _ _).bind fun _ _ ↦
      (isSafe_elementAt hlength).bind fun _ _ ↦ (isSafe_replaceAt hlength _).bind fun _ _ ↦
        (isSafe_renderDecl _ _).bind fun _ _ ↦ isSafe_pure _

/-- **A pattern that applies to a descriptor neither crashes nor turns it down**, whatever the
descriptor and the package are. -/
theorem isSafe_generate {p : String → Pattern} (hmem : p ∈ standardPatterns)
    (hv : (p package).validate d = .ok ()) : ((p package).generate d).IsSafe := by
  simp only [standardPatterns, List.mem_cons, List.not_mem_nil, or_false] at hmem
  obtain rfl | rfl | rfl | rfl | rfl | rfl | rfl | rfl | rfl | rfl | rfl | rfl | rfl | rfl | rfl :=
    hmem
  · exact isSafe_metrics _ _ _
  · exact isSafe_metrics _ _ _
  · exact isSafe_slog _ _
  · exact isSafe_tracing hv
  · exact isSafe_fileGetter hv
  · exact isSafe_store hv
  · exact isSafe_store hv
  · exact isSafe_cache hv
  · exact isSafe_semaphore _ _
  · exact isSafe_throttle _ _ _
  · exact isSafe_throttle _ _ _
  · exact isSafe_filter hv
  · exact isSafe_filter hv
  · exact isSafe_filterParam hv
  · exact isSafe_filterReturn hv

/-! ### Cases that cannot come up -/

/-- **What is left out or subtracted is there.** -/
structure Guarded : Prop where
  /-- The tokens of a source are never none. -/
  tokens : ∀ source ts, Token.scan source = some ts → ts ≠ []
  /-- A method that takes a context has a parameter that is left out of the others. -/
  params : ∀ m : Method, m.takesContext = true → m.params ≠ []
  /-- A method that can fail has a result that is left out of the others. -/
  results : ∀ m : Method, m.returnsError = true → m.results ≠ []
  /-- A line with a key has the two tokens that are left out of its value. -/
  keyed : ∀ line key, keyOf? line = some key → 2 ≤ line.length
  /-- No key of a run is wider than the column of the keys. -/
  aligned : ∀ (run : List (Option PrintedLine)) (l : PrintedLine), some l ∈ run →
    l.keyLength ≤ (run.filterMap fun l ↦ l.map PrintedLine.keyLength).foldl max 0
  /-- Where the entries of a list are read as types, none of them has a name. -/
  unnamed : ∀ entries : List ParamEntry, entries.any ParamEntry.isNamed = false →
    ∀ name shape variadic, .named name shape variadic ∉ entries

/-- None of these cases comes up. -/
theorem guarded : Guarded where
  tokens source ts h := by
    rw [Token.scan, Token.scanFrom_eq] at h
    split at h
    · exact Option.some.inj h ▸ List.cons_ne_nil _ _
    · obtain ⟨lx, -, h⟩ := Option.bind_eq_some_iff.1 h
      obtain ⟨ts, -, rfl⟩ := Option.map_eq_some_iff.1 h
      exact List.cons_ne_nil _ _
  params m h := by
    obtain ⟨p, ps, hparams, -⟩ := Method.exists_params_of_takesContext h
    exact hparams ▸ List.cons_ne_nil p ps
  results m h hresults := by
    rw [Method.returnsError, hresults] at h
    cases h
  keyed line key h := by
    unfold keyOf? at h
    split at h
    · simp
    · cases h
  aligned run l h :=
    le_foldl_max (List.mem_filterMap.2 ⟨some l, h, rfl⟩) 0
  unnamed entries h name shape variadic hmem := by
    have hnamed := List.any_eq_false.1 h _ hmem
    exact hnamed rfl

/-! ### Requests -/

/-- An input is read without a crash. -/
theorem ne_crash_of_readInput {input : String} {f : Failure}
    (h : (readInput input).outcome = .error f) (c : Crash) : f ≠ .crash c := by
  obtain ⟨r, hr⟩ := exists_parseSource (getLast?_append_newline ("package whatever\n\n" ++ input))
  obtain ⟨r', hr'⟩ :=
    exists_parseSource (getLast?_append_newline ("package whatever\n\ntype xxx " ++ input))
  rw [outcome_readInput, show parseSource (asDecls input) = .ok r from hr,
    show parseSource (asType input) = .ok r' from hr'] at h
  rcases r with e | file
  · rcases r' with e' | file'
    · exact fun hcrash ↦ by rw [hcrash] at h; cases h
    · cases h
  · cases h

/-- The visitor of a pattern does not crash. -/
theorem runFresh_ne_crash {v : Visitor} (hv : v ∈ Catalogue.standard.visitors package)
    (file : SourceFile) (c : Crash) : (v.runFresh file).outcome ≠ .error (.crash c) := by
  obtain ⟨p, hmem, rfl⟩ := exists_pattern_of_mem_visitors hv
  rw [Visitor.outcome_runFresh_ofPattern]
  split
  · simp
  · split
    · simp
    · rename_i d hcheck
      intro hcrash
      obtain ⟨e, he, -⟩ := isSafe_generate hmem (describeAs_of_check hcheck).2 _ hcrash
      cases he

/-- Trying out visitors does not crash, even if they do. -/
theorem accepting_ne_crash (file : SourceFile) (vs : List Visitor) (c : Crash) :
    (Catalogue.accepting file vs).outcome ≠ .error (.crash c) := by
  induction vs with
  | nil => simp [Catalogue.accepting]
  | cons v vs ih =>
    rw [Catalogue.outcome_accepting_cons]
    by_cases hfault : ∃ e, v.MeetsFault file e
    · obtain ⟨e, he⟩ := hfault
      rw [Catalogue.outcome_probe_of_fault he]
      exact fun h ↦ by cases h
    · rw [Catalogue.outcome_probe (not_exists.1 hfault)]
      intro h
      cases hrest : (Catalogue.accepting file vs).outcome with
      | ok summaries => rw [hrest] at h; cases h
      | error f =>
        rw [hrest] at h
        exact ih (hrest.trans h)

/-- **Nothing crashes between an input and generated code.** Neither of the two requests crashes,
nor does any pattern that the search for patterns tries out; and a pattern that applies to a
descriptor does not turn it down when it is prepared. -/
theorem standard_never_crashes (package input name : String) :
    (∀ c, (Catalogue.standard.implement package input name).outcome ≠ .error (.crash c)) ∧
      (∀ c, (Catalogue.standard.available package input).outcome ≠ .error (.crash c)) ∧
      (∀ v ∈ Catalogue.standard.visitors package, ∀ file c,
        (v.runFresh file).outcome ≠ .error (.crash c)) ∧
      (∀ p ∈ standardPatterns, ∀ d, (p package).validate d = .ok () →
        ∀ f, ((p package).generate d).outcome = .error f →
          ∃ e, f = .error e ∧ e.tier ≠ .validation) ∧
      Guarded := by
  refine ⟨fun c ↦ ?_, fun c ↦ ?_, fun v hv ↦ runFresh_ne_crash hv,
    fun p hmem d hv ↦ isSafe_generate hmem hv, guarded⟩
  · rw [Catalogue.outcome_implement]
    split
    · simp
    · rename_i v hfind
      cases hread : (readInput input).outcome with
      | error f => exact fun h ↦ ne_crash_of_readInput hread c (Except.error.inj h)
      | ok file => exact runFresh_ne_crash (List.mem_of_find?_eq_some hfind) file c
  · rw [Catalogue.outcome_available]
    cases hread : (readInput input).outcome with
    | error f => exact fun h ↦ ne_crash_of_readInput hread c (Except.error.inj h)
    | ok file => exact accepting_ne_crash file _ c

end GoDecorator
