import GoDecorator.Proofs.Parser.Stretches
import GoDecorator.Proofs.Shape.Written
import GoDecorator.Shape.Parser

/-!
# Reading written signatures back

What the parser does with the tokens of written parameters, results and signatures, for any parser
of inner types. There are two sides to it. **If the inner parser reads the type of every entry, the
list is read as the list it was written for** (`reads_paramList`, `reads_signatureOf`), with one
exception: a result list that is one variadic entry without a name is written without parentheses,
and the parser stops in front of its dots. **If the inner parser is stuck on the type of an entry,
the list cannot be read** (`fails_paramList`, `stuck_signatureOf`).

## Entries

An identifier alone is read as an entry whose meaning depends on the rest of the list. That the list
is written with all names or with none settles it. So an entry without a name is not said to be read
as a certain `ParamEntry`, but as one that counts as having no name and has the right type if it is
taken so (`ReadsUnnamed`). Three forms of a type need a proof of their own there: one that starts
with no identifier, the name of a type in a package, and an identifier alone.

## Results

The parser for results decides by its first token between a list, one type and nothing
(`resultsOf`). A written result list has one of four forms (`results_cases`), and each of the three
that can be read sends the parser the right way. Whatever follows must not start a type, or it would
be taken for a result where there is none: that is why `EndsType` is asked for after a signature,
while nothing is asked for after a list in parentheses.

Nothing here is by induction on types. The parser for types calls these parsers with itself on a
smaller budget, and the induction over that budget is in the module about whole types.
-/

namespace GoDecorator

open Token (Kind kinds)

namespace Parser

/-- The next token does not go on with a type. -/
def EndsType (k : Kind) : Prop := k.startsType = false ∧ k ≠ .dot

/-- What ends an item of a list does not go on with a type. -/
theorem EndsItem.endsType {k : Kind} (h : EndsItem k) : EndsType k := by
  rcases h with rfl | rfl
  · exact ⟨rfl, by simp⟩
  · exact ⟨rfl, by simp⟩

/-- The tokens of a written type start with one that starts a type, and with no parenthesis. -/
theorem exists_kinds_atoms (s : Shape) :
    ∃ k ks, kinds s.atoms = k :: ks ∧ k.startsType = true ∧ k ≠ .opening .paren := by
  cases s with
  | named q n => cases q <;> exact ⟨_, _, rfl, rfl, by simp⟩
  | function sig =>
    rw [Shape.atoms_function]
    exact ⟨_, _, rfl, rfl, by simp⟩
  | channel d s => cases d <;> exact ⟨_, _, rfl, rfl, by simp⟩
  | _ => exact ⟨_, _, rfl, rfl, by simp⟩

/-- A token that starts a type is none that does not. -/
theorem ne_of_startsType {k l : Kind} (hk : k.startsType = true) (hl : l.startsType = false) :
    k ≠ l := by
  rintro rfl
  rw [hk] at hl
  cases hl

/-! ### Entries of parameter lists -/

section Entries

variable {inner : Parser Shape} {t u : Token} {ts rest : List Token}

/-- After an ellipsis there is the type of a variadic entry without a name. -/
theorem continues_paramEntry_ellipsis :
    Continues (paramEntry inner) [.ellipsis] (fun _ ↦ True) inner (.bare · true) := by
  intro ts us hts _
  obtain ⟨t, rfl, ht⟩ := List.map_eq_singleton_iff.1 hts
  obtain ⟨_, rfl⟩ := exists_eq_mk ht
  -- after the dots neither of the next two tokens matters
  rcases us with _ | ⟨⟨k, _⟩, us⟩
  · rfl
  · cases k <;> rfl

/-- After an identifier that is followed by the start of a type, the type of the entry is read. -/
theorem continues_paramEntry_named {n : String} :
    Continues (paramEntry inner) [.ident n] (·.startsType = true) inner (.named n · false) := by
  intro ts us hts hu
  obtain ⟨t, rfl, ht⟩ := List.map_eq_singleton_iff.1 hts
  cases us with
  | nil => cases hu
  | cons u us =>
    simp only [List.cons_append, List.nil_append, paramEntry, StateT.run_bind, run_accept, run_peek,
      run_secondKind?, ok_bind, ht, first_cons, reduceCtorEq, if_false]
    split
    · rename_i hdot
      exact absurd (Option.some.inj hdot) (ne_of_startsType hu rfl)
    · rename_i hname _ _
      obtain rfl := Kind.ident.inj hname
      simp only [StateT.run_bind, run_skip, ok_bind, run_kind, List.tail_cons, first_cons]
      split
      · exact absurd ‹_› (ne_of_startsType hu rfl)
      · exact absurd ‹_› (ne_of_startsType hu rfl)
      · exact absurd ‹_› (ne_of_startsType hu rfl)
      · have hne : (first (u :: us)).kind ≠ .ellipsis := ne_of_startsType hu rfl
        rw [StateT.run_bind, run_accept_of_ne hne]
        rfl
    · rename_i hnone _
      exact (hnone n rfl rfl).elim

/-- After a name and an ellipsis there is the type of a variadic entry. -/
theorem continues_paramEntry_named_ellipsis {n : String} :
    Continues (paramEntry inner) [.ident n, .ellipsis] (fun _ ↦ True) inner (.named n · true) := by
  intro ts us hts _
  obtain ⟨t, ts, rfl, ht, hts⟩ := List.map_eq_cons_iff.1 hts
  obtain ⟨u, rfl, hu⟩ := List.map_eq_singleton_iff.1 hts
  obtain ⟨_, rfl⟩ := exists_eq_mk ht
  obtain ⟨_, rfl⟩ := exists_eq_mk hu
  rfl

/-- Where no identifier stands, an entry is a type. -/
theorem continues_paramEntry_bare :
    Continues (paramEntry inner) [] (fun k ↦ k.startsType = true ∧ ∀ n, k ≠ .ident n) inner
      (.bare · false) := by
  rintro ts us hts ⟨hstart, hn⟩
  obtain rfl := List.map_eq_nil_iff.1 hts
  have hne : (first us).kind ≠ .ellipsis := ne_of_startsType hstart rfl
  simp only [List.nil_append, paramEntry, StateT.run_bind, run_accept_of_ne hne, run_peek,
    run_secondKind?, ok_bind]
  split
  · rename_i hname _ _
    exact absurd hname (hn _)
  · rename_i hname _ _
    exact absurd hname (hn _)
  · rfl

/-- An identifier and a point are the start of a type. -/
theorem run_paramEntry_qualified {q : String} (ht : t.kind = .ident q) (hu : u.kind = .dot) :
    (paramEntry inner).run (t :: u :: ts) =
      inner.run (t :: u :: ts) >>= fun r ↦ .ok (.bare r.1 false, r.2) := by
  obtain ⟨_, rfl⟩ := exists_eq_mk ht
  obtain ⟨_, rfl⟩ := exists_eq_mk hu
  rfl

/-- An identifier at the end of an item is kept with its place, to be resolved later. -/
theorem run_paramEntry_lone {n : String} (ht : t.kind = .ident n)
    (hrest : EndsItem (first rest).kind) :
    (paramEntry inner).run (t :: rest) = .ok (.lone n t.span, rest) := by
  obtain ⟨_, rfl⟩ := exists_eq_mk ht
  cases rest with
  | nil => rcases hrest with h | h <;> cases h
  | cons u rest => rcases hrest with hu | hu <;> obtain ⟨_, rfl⟩ := exists_eq_mk hu <;> rfl

/-- The inner parser reads the type of a parameter as it should. -/
def ReadsShape (inner : Parser Shape) (s : Shape) : Prop :=
  Reads inner (kinds s.atoms) EndsType (· = s.reread)

theorem ReadsShape.beforeItem {s : Shape} (h : ReadsShape inner s) :
    Reads inner (kinds s.atoms) EndsItem (· = s.reread) :=
  h.mono (fun _ ↦ EndsItem.endsType) fun _ ha ↦ ha

/-- An entry with a name is read as such. -/
theorem reads_paramEntry_named {n : String} {s : Shape} (v : Bool) (h : ReadsShape inner s) :
    Reads (paramEntry inner) (kinds (ParamOf.atoms ⟨some n, s, v⟩)) EndsItem
      (· = .named n s.reread v) := by
  cases v with
  | false =>
    obtain ⟨k, ks, hk, hstart, -⟩ := exists_kinds_atoms s
    exact continues_paramEntry_named.reads (.of_eq hk hstart) h.beforeItem
  | true => exact continues_paramEntry_named_ellipsis.reads starts_true h.beforeItem

/-- A parameter without a name is read as it should. -/
def ReadsUnnamed (inner : Parser Shape) (s : Shape) (v : Bool) : Prop :=
  Reads (paramEntry inner) (kinds (ParamOf.atoms ⟨none, s, v⟩)) EndsItem
    fun e ↦ e.isNamed = false ∧ e.toUnnamed = ⟨none, s.reread, v⟩

theorem readsUnnamed_of_bare {s : Shape} {v : Bool}
    (h : Reads (paramEntry inner) (kinds (ParamOf.atoms ⟨none, s, v⟩)) EndsItem
      (· = .bare s.reread v)) : ReadsUnnamed inner s v :=
  h.mono (fun _ hk ↦ hk) fun e he ↦ by subst he; exact ⟨rfl, rfl⟩

/-- A type that starts with no identifier. -/
theorem readsUnnamed_bare {s : Shape} (h : ReadsShape inner s)
    (hs : ∃ k ks, kinds s.atoms = k :: ks ∧ ∀ n, k ≠ .ident n) : ReadsUnnamed inner s false := by
  obtain ⟨k, ks, hk, hn⟩ := hs
  obtain ⟨l, ls, hl, hstart, -⟩ := exists_kinds_atoms s
  obtain ⟨rfl, rfl⟩ := List.cons.inj (hk.symm.trans hl)
  exact readsUnnamed_of_bare
    (continues_paramEntry_bare.reads (.of_eq hk ⟨hstart, hn⟩) h.beforeItem)

/-- A type that is the name of a type in a package. -/
theorem readsUnnamed_qualified {s : Shape} {q n : String} (h : ReadsShape inner s)
    (hk : kinds s.atoms = [.ident q, .dot, .ident n]) : ReadsUnnamed inner s false := by
  refine readsUnnamed_of_bare fun ts rest hts hrest ↦ ?_
  replace hts : ts.map Token.kind = kinds s.atoms := hts
  obtain ⟨_, rfl, hrun⟩ := h ts rest hts hrest.endsType
  obtain ⟨t, ts, rfl, ht, hts⟩ := List.map_eq_cons_iff.1 (hts.trans hk)
  obtain ⟨u, ts, rfl, hu, -⟩ := List.map_eq_cons_iff.1 hts
  refine ⟨_, rfl, ?_⟩
  rw [List.cons_append, List.cons_append] at hrun ⊢
  rw [run_paramEntry_qualified ht hu, hrun]
  rfl

/-- A type that is an identifier alone, which could be a name as well. -/
theorem readsUnnamed_lone {s : Shape} {n : String} (hk : kinds s.atoms = [.ident n])
    (hs : s.reread = .ofIdent n) : ReadsUnnamed inner s false := by
  intro ts rest hts hrest
  obtain ⟨t, rfl, ht⟩ := List.map_eq_singleton_iff.1
    ((show ts.map Token.kind = kinds s.atoms from hts).trans hk)
  exact ⟨.lone n t.span, ⟨rfl, by rw [hs]; rfl⟩, run_paramEntry_lone ht hrest⟩

/-- An entry without a name is read as one, though it may be read as a name alone. -/
theorem reads_paramEntry_unnamed {s : Shape} (v : Bool) (h : ReadsShape inner s) :
    ReadsUnnamed inner s v := by
  cases v with
  | true =>
    exact readsUnnamed_of_bare
      (continues_paramEntry_ellipsis.reads starts_true h.beforeItem)
  | false =>
    -- a type that starts with a name is told apart by what follows the name
    cases s with
    | primitive p => exact readsUnnamed_lone rfl (Shape.ofIdent_text p).symm
    | named q n =>
      cases q with
      | none => exact readsUnnamed_lone rfl rfl
      | some q => exact readsUnnamed_qualified h rfl
    | context => exact readsUnnamed_qualified h rfl
    | function sig =>
      refine readsUnnamed_bare h ⟨.keyword .func, kinds sig.atoms, ?_, by simp⟩
      rw [Shape.atoms_function]
      rfl
    | channel d s =>
      cases d <;> exact readsUnnamed_bare h ⟨_, _, rfl, by simp⟩
    | _ => exact readsUnnamed_bare h ⟨_, _, rfl, by simp⟩

/-- An entry whose type leaves the inner parser stuck leaves the parser for entries stuck. -/
theorem stuck_paramEntry {p : Param} (h : Stuck inner (kinds p.shape.atoms))
    (hname : p.name = none → ∃ k ks, kinds p.shape.atoms = k :: ks ∧ ∀ n, k ≠ .ident n) :
    Stuck (paramEntry inner) (kinds p.atoms) := by
  obtain ⟨name, s, v⟩ := p
  obtain ⟨k, ks, hk, hstart, -⟩ := exists_kinds_atoms s
  cases name with
  | some n =>
    cases v with
    | false => exact continues_paramEntry_named.stuck (.of_eq hk hstart) h
    | true => exact continues_paramEntry_named_ellipsis.stuck starts_true h
  | none =>
    cases v with
    | false =>
      obtain ⟨l, ls, hl, hn⟩ := hname rfl
      obtain ⟨rfl, rfl⟩ := List.cons.inj (hk.symm.trans hl)
      exact continues_paramEntry_bare.stuck (.of_eq hk ⟨hstart, hn⟩) h
    | true => exact continues_paramEntry_ellipsis.stuck starts_true h

end Entries

/-! ### Parameter lists and signatures -/

/-- The parameters of a list without names. -/
theorem resolveParams_unnamed {ps : List Param} {es : List ParamEntry}
    (h : List.Forall₂ (fun p e ↦ e.isNamed = false ∧ e.toUnnamed = ParamOf.reread p) ps es) :
    resolveParams es = .ok (ps.map ParamOf.reread) := by
  have hboth : es.any ParamEntry.isNamed = false ∧
      es.map ParamEntry.toUnnamed = ps.map ParamOf.reread := by
    induction h with
    | nil => exact ⟨rfl, rfl⟩
    | cons hpe _ ih =>
      exact ⟨by rw [List.any_cons, hpe.1, ih.1]; rfl,
        by rw [List.map_cons, List.map_cons, hpe.2, ih.2]⟩
  rw [resolveParams, hboth.1, hboth.2]
  rfl

/-- The parameters of a list with names. -/
theorem resolveNamed_named {ps : List Param} {es : List ParamEntry}
    (h : List.Forall₂ (fun p e ↦ ∃ n, p.name = some n ∧
      e = .named n p.shape.reread p.variadic) ps es) :
    resolveNamed es = .ok (ps.map ParamOf.reread) := by
  induction h with
  | nil => rfl
  | cons hpe _ ih =>
    obtain ⟨n, hn, rfl⟩ := hpe
    rw [resolveNamed, ih, List.map_cons, ParamOf.reread, hn]
    rfl

/-- A list with names is resolved as one with names. -/
theorem resolveParams_named {ps : List Param} {es : List ParamEntry}
    (h : List.Forall₂ (fun p e ↦ ∃ n, p.name = some n ∧
      e = .named n p.shape.reread p.variadic) ps es) :
    resolveParams es = .ok (ps.map ParamOf.reread) := by
  cases h with
  | nil => rfl
  | cons hpe hrest =>
    have hall := resolveNamed_named (.cons hpe hrest)
    obtain ⟨n, hn, rfl⟩ := hpe
    rw [resolveParams, if_pos (by simp [ParamEntry.isNamed]), hall]

section Lists

variable {inner : Parser Shape}

/-- An entry starts with a token that can start an item of a list. -/
theorem startsItem_param (p : Param) : ∃ k ks, kinds p.atoms = k :: ks ∧ StartsItem k := by
  obtain ⟨name, s, v⟩ := p
  obtain ⟨k, ks, hk, hstart, -⟩ := exists_kinds_atoms s
  cases name with
  | some n => exact ⟨_, _, rfl, by simp, by simp⟩
  | none =>
    cases v with
    | true => exact ⟨_, _, rfl, by simp, by simp⟩
    | false => exact ⟨k, ks, hk, ne_of_startsType hstart rfl, ne_of_startsType hstart rfl⟩

/-- **A written list of parameters is read as the parameters.** -/
theorem reads_paramList {ps : List Param} (hu : IsUniform ps)
    (h : ∀ p ∈ ps, ReadsShape inner p.shape) (follow : Kind → Prop) :
    Reads (paramList inner) (commaKinds (ps.map fun p ↦ kinds p.atoms)) follow
      (· = ps.map ParamOf.reread) := by
  intro ts rest hts hrest
  have hes : ∃ es, resolveParams es = .ok (ps.map ParamOf.reread) ∧
      (commaList (paramEntry inner)).run (ts ++ rest) = .ok (es, rest) := by
    rcases hu with hu | hu
    · obtain ⟨es, hes, hrun⟩ := @reads_commaList _ _ (paramEntry inner) ps _
        (fun p e ↦ ∃ n, p.name = some n ∧ e = .named n p.shape.reread p.variadic)
        (fun p hp ↦ by
          obtain ⟨name, s, v⟩ := p
          obtain ⟨n, rfl⟩ := Option.isSome_iff_exists.1 (hu _ hp)
          exact (reads_paramEntry_named v (h _ hp)).mono (fun _ hk ↦ hk)
            fun e he ↦ ⟨n, rfl, he⟩)
        (fun p _ ↦ startsItem_param p) follow ts rest hts hrest
      exact ⟨es, resolveParams_named hes, hrun⟩
    · obtain ⟨es, hes, hrun⟩ := @reads_commaList _ _ (paramEntry inner) ps _
        (fun p e ↦ e.isNamed = false ∧ e.toUnnamed = ParamOf.reread p)
        (fun p hp ↦ by
          obtain ⟨name, s, v⟩ := p
          obtain rfl : name = none := hu _ hp
          exact reads_paramEntry_unnamed v (h _ hp))
        (fun p _ ↦ startsItem_param p) follow ts rest hts hrest
      exact ⟨es, resolveParams_unnamed hes, hrun⟩
  obtain ⟨es, hes, hrun⟩ := hes
  refine ⟨_, rfl, ?_⟩
  rw [paramList, StateT.run_bind, hrun, ok_bind, hes]
  rfl

/-- A list of parameters cannot be read if one of its entries is stuck. -/
theorem fails_paramList {ξ : Type} {xs : List ξ} {ks : ξ → List Kind}
    (hentry : ∀ x ∈ xs, Reads (paramEntry inner) (ks x) EndsItem (fun _ ↦ True) ∨
      Stuck (paramEntry inner) (ks x))
    (hstart : ∀ x ∈ xs, ∃ k ls, ks x = k :: ls ∧ StartsItem k)
    (hstuck : ∃ x ∈ xs, Stuck (paramEntry inner) (ks x)) :
    Fails (paramList inner) (commaKinds (xs.map ks)) :=
  (fails_commaList hentry hstart hstuck).bind _

/-- The tokens of a signature: a list of parameters and then the results. -/
theorem kinds_signature (sig : Signature) :
    kinds sig.atoms = .opening .paren :: (commaKinds (sig.params.map fun p ↦ kinds p.atoms) ++
      kinds (resultListAtoms sig.results (sig.results.map ParamOf.atoms))) := by
  simp [SignatureOf.atoms, commaKinds, Token.kinds_commaAtoms, Function.comp_def]

/-- The tokens of results that stand in parentheses. -/
theorem kinds_resultListAtoms {rs : List Param} (hne : rs ≠ []) (halone : standsAlone rs = false) :
    kinds (resultListAtoms rs (rs.map ParamOf.atoms)) =
      .opening .paren :: commaKinds (rs.map fun r ↦ kinds r.atoms) := by
  rw [resultListAtoms, if_neg (by simpa using hne), if_neg (by simp [halone])]
  simp [commaKinds, Token.kinds_commaAtoms, Function.comp_def]

/-- The tokens of a result list that is one entry without a name. -/
theorem kinds_resultListAtoms_alone (s : Shape) (v : Bool) :
    kinds (resultListAtoms [⟨none, s, v⟩] ([(⟨none, s, v⟩ : Param)].map ParamOf.atoms)) =
      kinds (ParamOf.atoms ⟨none, s, v⟩) := by
  simp [resultListAtoms, standsAlone]

/-- The four forms of a result list: none, one type alone, one variadic entry alone, and a list in
parentheses. -/
theorem results_cases (rs : List Param) :
    rs = [] ∨ (∃ s, rs = [⟨none, s, false⟩]) ∨ (∃ s, rs = [⟨none, s, true⟩]) ∨
      (rs ≠ [] ∧ standsAlone rs = false) := by
  rcases rs with _ | ⟨⟨n, s, v⟩, _ | ⟨r, rs⟩⟩
  · exact .inl rfl
  · cases n with
    | some n => exact .inr (.inr (.inr ⟨by simp, rfl⟩))
    | none =>
      cases v with
      | false => exact .inr (.inl ⟨s, rfl⟩)
      | true => exact .inr (.inr (.inl ⟨s, rfl⟩))
  · exact .inr (.inr (.inr ⟨by simp, rfl⟩))

/-- What comes after the parameters of a signature. -/
def resultsOf (inner : Parser Shape) (params : List Param) : Parser Signature := do
  if ← accept (.opening .paren) then
    return ⟨params, ← paramList inner⟩
  else if (← kind).startsType then
    return ⟨params, [.unnamed (← inner)]⟩
  else return ⟨params, []⟩

theorem signatureOf_eq (inner : Parser Shape) :
    signatureOf inner = (do
      expect (.opening .paren)
      resultsOf inner (← paramList inner)) := rfl

theorem continues_resultsOf_parens {params : List Param} :
    Continues (resultsOf inner params) [.opening .paren] (fun _ ↦ True) (paramList inner)
      (fun rs ↦ (⟨params, rs⟩ : Signature)) := by
  intro ts us hts _
  obtain ⟨t, rfl, ht⟩ := List.map_eq_singleton_iff.1 hts
  rw [List.singleton_append, resultsOf, StateT.run_bind, run_accept_cons ht]
  rfl

theorem continues_resultsOf_type {params : List Param} :
    Continues (resultsOf inner params) [] (fun k ↦ k.startsType = true ∧ k ≠ .opening .paren) inner
      (fun s ↦ (⟨params, [.unnamed s]⟩ : Signature)) := by
  rintro ts us hts ⟨hstart, hne⟩
  obtain rfl := List.map_eq_nil_iff.1 hts
  rw [List.nil_append, resultsOf, StateT.run_bind, run_accept_of_ne hne, ok_bind,
    if_neg (by simp), StateT.run_bind, run_kind, ok_bind, if_pos hstart]
  rfl

theorem run_resultsOf_none {params : List Param} {ts : List Token}
    (h : (first ts).kind.startsType = false) :
    (resultsOf inner params).run ts = .ok (⟨params, []⟩, ts) := by
  have hne : (first ts).kind ≠ .opening .paren := by
    intro heq
    rw [heq] at h
    cases h
  rw [resultsOf, StateT.run_bind, run_accept_of_ne hne, ok_bind, if_neg (by simp),
    StateT.run_bind, run_kind, ok_bind, h]
  rfl

/-- **A written result list is read as the results**, unless it is one variadic entry alone. -/
theorem reads_resultsOf {rs : List Param} (hu : IsUniform rs)
    (h : ∀ r ∈ rs, ReadsShape inner r.shape) (hlone : ∀ s, rs ≠ [⟨none, s, true⟩])
    (params : List Param) :
    Reads (resultsOf inner params) (kinds (resultListAtoms rs (rs.map ParamOf.atoms))) EndsType
      (· = ⟨params, rs.map ParamOf.reread⟩) := by
  rcases results_cases rs with rfl | ⟨s, rfl⟩ | ⟨s, rfl⟩ | ⟨hne, halone⟩
  · intro ts rest hts hrest
    obtain rfl := List.map_eq_nil_iff.1 hts
    exact ⟨_, rfl, run_resultsOf_none hrest.1⟩
  · rw [kinds_resultListAtoms_alone]
    obtain ⟨k, ks, hk, hstart⟩ := exists_kinds_atoms s
    exact continues_resultsOf_type.reads (.of_eq hk hstart) (h ⟨none, s, false⟩ (by simp))
  · exact absurd rfl (hlone s)
  · rw [kinds_resultListAtoms hne halone]
    exact continues_resultsOf_parens.reads starts_true (reads_paramList hu h EndsType)

/-- A result list that is one variadic entry alone, or has an entry that is stuck, cannot be read to
its end. -/
theorem stuck_resultsOf {rs : List Param}
    (h : ∀ r ∈ rs, Reads (paramEntry inner) (kinds r.atoms) EndsItem (fun _ ↦ True) ∨
      Stuck (paramEntry inner) (kinds r.atoms))
    (hstuck : (∃ s, rs = [⟨none, s, true⟩]) ∨
      ∃ r ∈ rs, Stuck inner (kinds r.shape.atoms) ∧ Stuck (paramEntry inner) (kinds r.atoms))
    (params : List Param) :
    Stuck (resultsOf inner params) (kinds (resultListAtoms rs (rs.map ParamOf.atoms))) := by
  rcases results_cases rs with rfl | ⟨s, rfl⟩ | ⟨s, rfl⟩ | ⟨hne, halone⟩
  · rcases hstuck with ⟨s, hs⟩ | ⟨r, hr, -⟩
    · cases hs
    · cases hr
  · have hs : Stuck inner (kinds s.atoms) := by
      rcases hstuck with ⟨s', hs'⟩ | ⟨r, hr, hr', -⟩
      · simp at hs'
      · obtain rfl := List.mem_singleton.1 hr
        exact hr'
    rw [kinds_resultListAtoms_alone]
    obtain ⟨k, ks, hk, hstart⟩ := exists_kinds_atoms s
    exact continues_resultsOf_type.stuck (.of_eq hk hstart) hs
  · rw [kinds_resultListAtoms_alone]
    intro ts rest hts
    -- the dots start no type, so the parser takes the results to be none
    have hdots : (first (ts ++ rest)).kind = .ellipsis := first_append hts
    exact .inr ⟨_, _, run_resultsOf_none (by rw [hdots]; rfl), hdots⟩
  · have hsome : ∃ r ∈ rs, Stuck (paramEntry inner) (kinds r.atoms) := by
      rcases hstuck with ⟨s, rfl⟩ | ⟨r, hr, -, hr'⟩
      · cases halone
      · exact ⟨r, hr, hr'⟩
    rw [kinds_resultListAtoms hne halone]
    exact (continues_resultsOf_parens.fails starts_true
      (fails_paramList h (fun r _ ↦ startsItem_param r) hsome)).stuck

/-- After parameters that can be read, a signature goes on with the results. -/
theorem continues_signatureOf {ps : List Param} (hu : IsUniform ps)
    (h : ∀ p ∈ ps, ReadsShape inner p.shape) :
    Continues (signatureOf inner) (.opening .paren :: commaKinds (ps.map fun p ↦ kinds p.atoms))
      (fun _ ↦ True) (resultsOf inner (ps.map ParamOf.reread)) id := by
  intro ts us hts _
  obtain ⟨t, ts, rfl, ht, hts⟩ := List.map_eq_cons_iff.1 hts
  obtain ⟨_, rfl, hrun⟩ := reads_paramList hu h (fun _ ↦ True) ts us hts trivial
  rw [signatureOf_eq, StateT.run_bind, List.cons_append, run_expect_cons ht, ok_bind,
    StateT.run_bind, hrun, ok_bind]
  exact (bind_pure _).symm

/-- **A written signature is read as the signature**, unless its results are one variadic entry
alone. -/
theorem reads_signatureOf {sig : Signature} (hps : IsUniform sig.params)
    (hrs : IsUniform sig.results)
    (h : ∀ p ∈ sig.params ++ sig.results, ReadsShape inner p.shape)
    (hlone : ∀ s, sig.results ≠ [⟨none, s, true⟩]) :
    Reads (signatureOf inner) (kinds sig.atoms) EndsType (· = sig.reread) := by
  rw [kinds_signature]
  exact (continues_signatureOf hps fun p hp ↦ h p (List.mem_append_left _ hp)).reads starts_true
    (reads_resultsOf hrs (fun r hr ↦ h r (List.mem_append_right _ hr)) hlone _)

/-- A signature cannot be read if its list of parameters cannot. -/
theorem fails_signatureOf {ks : List Kind} (h : Fails (paramList inner) ks) :
    Fails (signatureOf inner) (.opening .paren :: ks) :=
  (h.bind (resultsOf inner)).after_expect (.opening .paren)

/-- A signature cannot be read to its end if its list of results cannot. -/
theorem stuck_signatureOf {sig : Signature} (hps : IsUniform sig.params)
    (h : ∀ p ∈ sig.params, ReadsShape inner p.shape)
    (hrs : ∀ params, Stuck (resultsOf inner params)
      (kinds (resultListAtoms sig.results (sig.results.map ParamOf.atoms)))) :
    Stuck (signatureOf inner) (kinds sig.atoms) := by
  rw [kinds_signature]
  exact (continues_signatureOf hps h).stuck starts_true (hrs _)

end Lists

end Parser

end GoDecorator
