import GoDecorator.Proofs.Decl.Soundness

/-!
# Where the signatures of a file are written

`SourceFile.signatures` are **all signatures in a file**: those of its functions, of the methods of
its interfaces, and of the function types at any depth in the types that are written anywhere in it,
the types of composite literals included.

Each of them was read from some stretch of the tokens. `SignatureAt` is the grammar of such a
stretch, as far as it concerns parameters and results: which entries stand in the two lists, with
their names and their dots. The types in the entries are left to the parser for types (`TypeAt`).
**Every signature of a file that was read is what the entries of such a stretch resolve to**
(`ensures_file_isWrittenIn`).

## Two directions

The grammar is given by inductive predicates on the tokens (`ListAt`, `EntryAt`, `ResultsAt`), so
that a statement about what is accepted can be made without the parser. The first half of the module
goes from a run of the parser to the grammar: what was read in a round of a list, as an entry, as a
list, as a signature (`commaRound_cases`, `entryAt_of_paramEntry`, `signatureAt_of_signatureOf`).

The second half carries this to all signatures of a file. The property is that of a function type
among the parts of a type, `SignedIn`, and the rules for types and declarations carry it up. The
proviso on the tokens is that they are the end of the source, since a stretch that is written at the
end of some tokens is written in the source. Expressions have no such rules of their own, so that
those for the types of composite literals are stated here.
-/

namespace GoDecorator

open Token (Kind)

/-! ### The signatures of a file -/

/-- The signature of a function type. -/
def Shape.signature? : Shape → Option Signature
  | .function sig => some sig
  | _ => none

/-- The signatures of the function types in a type, at any depth. -/
def Shape.signatures (s : Shape) : List Signature := s.parts.filterMap Shape.signature?

/-- The type of a composite literal. -/
def Expr.shape? : Expr → Option Shape
  | .composite s => some s
  | _ => none

/-- The types of the composite literals in an expression. -/
def Expr.shapes (e : Expr) : List Shape := e.parts.filterMap Expr.shape?

/-- The types of composite literals are those of the parts that are composite literals. -/
theorem Expr.mem_shapes {s : Shape} {e : Expr} : s ∈ e.shapes ↔ .composite s ∈ e.parts := by
  rw [shapes, List.mem_filterMap]
  constructor
  · rintro ⟨x, hx, hs⟩
    match x, hs with
    | .composite _, rfl => exact hx
  · exact fun h ↦ ⟨_, h, rfl⟩

@[simp] theorem Expr.shapes_ident (path : String) : (ident path).shapes = [] := rfl

@[simp] theorem Expr.shapes_literal (text : String) : (literal text).shapes = [] := rfl

/-- They are found in what is called and in the arguments. -/
theorem Expr.mem_shapes_call {s : Shape} {f : Expr} {args : List Expr} :
    s ∈ (call f args).shapes ↔ s ∈ f.shapes ∨ ∃ a ∈ args, s ∈ a.shapes := by
  simp only [mem_shapes, parts, List.mem_cons, List.mem_append, mem_partsOfArgs, reduceCtorEq,
    false_or]

/-- All types that are written in a declaration, with a signature as the type of a function. -/
def Decl.allShapes (d : Decl) : List Shape :=
  d.shapes ++ d.embedded ++ d.value?.toList.flatMap Expr.shapes

/-- **The signatures of a file**: those of its functions and methods, and those of function types at
any depth. -/
def SourceFile.signatures (f : SourceFile) : List Signature :=
  f.decls.flatMap fun d ↦ d.allShapes.flatMap Shape.signatures

namespace Parser

/-! ### How a signature is written -/

/-- The items of a list in parentheses, after the opening one. `R` relates the tokens in front of an
item to the item and the tokens after it. -/
inductive ListAt {α : Type} (R : List Token → α → List Token → Prop) :
    List Token → List α → List Token → Prop
  /-- The list ends. -/
  | close {ts rest : List Token} {t : Token}
      (hts : ts.dropWhile (fun t ↦ t.kind == .newline) = t :: rest)
      (ht : t.kind = .closing .paren) : ListAt R ts [] rest
  /-- There is one more item, and the list ends. -/
  | last {ts us rest : List Token} {a : α} {t : Token}
      (ha : R (ts.dropWhile fun t ↦ t.kind == .newline) a us)
      (hus : us.dropWhile (fun t ↦ t.kind == .newline) = t :: rest)
      (ht : t.kind = .closing .paren) : ListAt R ts [a] rest
  /-- There is one more item and a comma. -/
  | more {ts us vs rest : List Token} {a : α} {as : List α} {t : Token}
      (ha : R (ts.dropWhile fun t ↦ t.kind == .newline) a us)
      (hus : us.dropWhile (fun t ↦ t.kind == .newline) = t :: vs)
      (ht : t.kind = .comma) (has : ListAt R vs as rest) : ListAt R ts (a :: as) rest

/-- A type. -/
def TypeAt (ts : List Token) (s : Shape) (rest : List Token) : Prop :=
  ∃ budget, (shapeWithin budget).run ts = .ok (s, rest)

/-- An entry of a parameter list. -/
inductive EntryAt : List Token → ParamEntry → List Token → Prop
  /-- An identifier alone. -/
  | lone {t : Token} {ts : List Token} {n : String} (ht : t.kind = .ident n) :
      EntryAt (t :: ts) (.lone n t.span) ts
  /-- A name and a type. -/
  | named {t : Token} {ts rest : List Token} {n : String} {s : Shape} (ht : t.kind = .ident n)
      (hs : TypeAt ts s rest) : EntryAt (t :: ts) (.named n s false) rest
  /-- A name and a type, with dots between them. -/
  | namedDots {t d : Token} {ts rest : List Token} {n : String} {s : Shape}
      (ht : t.kind = .ident n) (hd : d.kind = .ellipsis) (hs : TypeAt ts s rest) :
      EntryAt (t :: d :: ts) (.named n s true) rest
  /-- A type. -/
  | bare {ts rest : List Token} {s : Shape} (hs : TypeAt ts s rest) :
      EntryAt ts (.bare s false) rest
  /-- A type with dots in front. -/
  | dots {d : Token} {ts rest : List Token} {s : Shape} (hd : d.kind = .ellipsis)
      (hs : TypeAt ts s rest) : EntryAt (d :: ts) (.bare s true) rest

/-- The results of a function: none, a type, or a list. -/
inductive ResultsAt : List Token → List ParamEntry → List Token → Prop
  /-- There are no results. -/
  | none {ts : List Token} : ResultsAt ts [] ts
  /-- There is one result, without parentheses. -/
  | type {ts rest : List Token} {s : Shape} (hs : TypeAt ts s rest) :
      ResultsAt ts [.bare s false] rest
  /-- The results are in parentheses. -/
  | list {t : Token} {ts rest : List Token} {es : List ParamEntry}
      (ht : t.kind = .opening .paren) (hes : ListAt EntryAt ts es rest) :
      ResultsAt (t :: ts) es rest

/-- **A signature is written at the front of the tokens**: its parameters and results are what the
entries of the two lists resolve to. -/
structure SignatureAt (sig : Signature) (es fs : List ParamEntry) (ts : List Token) : Prop where
  /-- The entries of the parameters stand in parentheses, and after them those of the results. -/
  written : ∃ t us vs rest, ts = t :: us ∧ t.kind = .opening .paren ∧ ListAt EntryAt us es vs ∧
    ResultsAt vs fs rest
  /-- The parameters are what the entries of the first list resolve to. -/
  params : resolveParams es = .ok sig.params
  /-- The results are what the entries of the second list resolve to. -/
  results : resolveParams fs = .ok sig.results

section Runs

variable {α : Type} {ts rest : List Token}

/-- What was taken where a token was accepted. -/
theorem accept_cases {k : Kind} {b : Bool} (hk : k ≠ .eof) (h : (accept k).run ts = .ok (b, rest)) :
    (b = true ∧ ∃ t, ts = t :: rest ∧ t.kind = k) ∨ (b = false ∧ rest = ts) := by
  rw [run_accept] at h
  split at h
  next hfirst =>
    obtain ⟨rfl, rfl⟩ := Prod.mk.inj (Except.ok.inj h)
    match ts, hfirst with
    | [], hfirst => exact absurd hfirst.symm hk
    | t :: _, hfirst => exact .inl ⟨rfl, t, rfl, hfirst⟩
  next =>
    obtain ⟨rfl, rfl⟩ := Prod.mk.inj (Except.ok.inj h)
    exact .inr ⟨rfl, rfl⟩

/-- **What one round of a list in parentheses does.** -/
theorem commaRound_cases {item : Parser α} {r : Round α}
    (h : (commaRound item).run ts = .ok (r, rest)) :
    (r = .stop ∧ ∃ t, ts.dropWhile (fun t ↦ t.kind == .newline) = t :: rest ∧
        t.kind = .closing .paren) ∨
      ∃ a us t, item.run (ts.dropWhile fun t ↦ t.kind == .newline) = .ok (a, us) ∧
        us.dropWhile (fun t ↦ t.kind == .newline) = t :: rest ∧
        (r = .more a ∧ t.kind = .comma ∨ r = .last a ∧ t.kind = .closing .paren) := by
  obtain ⟨_, ts₁, hskip, h⟩ := exists_run_of_bind h
  obtain ⟨-, rfl⟩ := Prod.mk.inj (Except.ok.inj hskip)
  obtain ⟨b, ts₂, haccept, h⟩ := exists_run_of_bind h
  obtain ⟨rfl, t, hts, ht⟩ | ⟨rfl, rfl⟩ := accept_cases (by decide) haccept
  · obtain ⟨rfl, rfl⟩ := Prod.mk.inj (Except.ok.inj h)
    exact .inl ⟨rfl, t, hts, ht⟩
  · obtain ⟨a, us, hitem, h⟩ := exists_run_of_bind h
    obtain ⟨_, us₁, hskip, h⟩ := exists_run_of_bind h
    obtain ⟨-, rfl⟩ := Prod.mk.inj (Except.ok.inj hskip)
    obtain ⟨b, us₂, haccept, h⟩ := exists_run_of_bind h
    obtain ⟨rfl, t, hus, ht⟩ | ⟨rfl, rfl⟩ := accept_cases (by decide) haccept
    · obtain ⟨rfl, rfl⟩ := Prod.mk.inj (Except.ok.inj h)
      exact .inr ⟨a, us, t, hitem, hus, .inl ⟨rfl, ht⟩⟩
    · obtain ⟨_, _, hexpect, h⟩ := exists_run_of_bind h
      obtain ⟨t, hus, ht⟩ := exists_cons_of_expect (by decide) hexpect
      obtain ⟨rfl, rfl⟩ := Prod.mk.inj (Except.ok.inj h)
      exact .inr ⟨a, us, t, hitem, hus, .inr ⟨rfl, ht⟩⟩

/-- **A list that was read is written as a list**, item by item. -/
theorem listAt_of_commaList {item : Parser α} {R : List Token → α → List Token → Prop}
    (hitem : ∀ ts a rest, item.run ts = .ok (a, rest) → R ts a rest) {as : List α}
    (h : (commaList item).run ts = .ok (as, rest)) : ListAt R ts as rest := by
  rw [commaList_eq, run_rounds] at h
  generalize ts.length + 1 = budget at h
  induction budget generalizing ts as with
  | zero => cases h
  | succ budget ih =>
    obtain ⟨r, us, hround, h⟩ := exists_run_of_bind h
    obtain ⟨rfl, t, hts, ht⟩ | ⟨a, vs, t, ha, hvs, ⟨rfl, ht⟩ | ⟨rfl, ht⟩⟩ := commaRound_cases hround
    · obtain ⟨rfl, rfl⟩ := Prod.mk.inj (Except.ok.inj h)
      exact .close hts ht
    · obtain ⟨as', ws, hmore, h⟩ := exists_run_of_bind h
      obtain ⟨rfl, rfl⟩ := Prod.mk.inj (Except.ok.inj h)
      exact .more (hitem _ _ _ ha) hvs ht (ih hmore)
    · obtain ⟨rfl, rfl⟩ := Prod.mk.inj (Except.ok.inj h)
      exact .last (hitem _ _ _ ha) hvs ht

variable {inner : Parser Shape}

/-- An entry that was read is written in one of the five ways. -/
theorem entryAt_of_paramEntry
    (hinner : ∀ ts s rest, inner.run ts = .ok (s, rest) → TypeAt ts s rest) {e : ParamEntry}
    (h : (paramEntry inner).run ts = .ok (e, rest)) : EntryAt ts e rest := by
  obtain ⟨variadic, ts₁, haccept, hrun⟩ := exists_run_of_bind h
  rw [StateT.run_bind, run_peek, ok_bind, StateT.run_bind, run_secondKind?, ok_bind] at hrun
  dsimp only at hrun
  obtain ⟨rfl, d, rfl, hd⟩ | ⟨rfl, rfl⟩ := accept_cases (by decide) haccept
  · -- dots in front
    split at hrun
    next heq _ => cases heq
    next heq _ => cases heq
    next =>
      obtain ⟨s, us, hs, hrun⟩ := exists_run_of_bind hrun
      obtain ⟨rfl, rfl⟩ := Prod.mk.inj (Except.ok.inj hrun)
      exact .dots hd (hinner _ _ _ hs)
  · split at hrun
    next =>
      -- a qualified name
      obtain ⟨s, us, hs, hrun⟩ := exists_run_of_bind hrun
      obtain ⟨rfl, rfl⟩ := Prod.mk.inj (Except.ok.inj hrun)
      exact .bare (hinner _ _ _ hs)
    next name hname _ _ =>
      obtain ⟨t, ts, rfl⟩ : ∃ t ts, ts₁ = t :: ts := by
        match ts₁, hname with
        | t :: ts, _ => exact ⟨t, ts, rfl⟩
      rw [StateT.run_bind, run_skip, ok_bind, StateT.run_bind, run_kind, ok_bind] at hrun
      dsimp only [List.tail_cons] at hrun
      split at hrun
      · obtain ⟨rfl, rfl⟩ := Prod.mk.inj (Except.ok.inj hrun)
        exact .lone hname
      · obtain ⟨rfl, rfl⟩ := Prod.mk.inj (Except.ok.inj hrun)
        exact .lone hname
      · obtain ⟨rfl, rfl⟩ := Prod.mk.inj (Except.ok.inj hrun)
        exact .lone hname
      · obtain ⟨variadic, us, haccept, hrun⟩ := exists_run_of_bind hrun
        obtain ⟨s, vs, hs, hrun⟩ := exists_run_of_bind hrun
        obtain ⟨rfl, rfl⟩ := Prod.mk.inj (Except.ok.inj hrun)
        obtain ⟨rfl, d, rfl, hd⟩ | ⟨rfl, rfl⟩ := accept_cases (by decide) haccept
        · exact .namedDots hname hd (hinner _ _ _ hs)
        · exact .named hname (hinner _ _ _ hs)
    next =>
      obtain ⟨s, us, hs, hrun⟩ := exists_run_of_bind hrun
      obtain ⟨rfl, rfl⟩ := Prod.mk.inj (Except.ok.inj hrun)
      exact .bare (hinner _ _ _ hs)

/-- Parameters that were read are what a written list of entries resolves to. -/
theorem listAt_of_paramList
    (hinner : ∀ ts s rest, inner.run ts = .ok (s, rest) → TypeAt ts s rest) {ps : List Param}
    (h : (paramList inner).run ts = .ok (ps, rest)) :
    ∃ es, ListAt EntryAt ts es rest ∧ resolveParams es = .ok ps := by
  obtain ⟨es, us, hes, hlift⟩ := exists_run_of_bind h
  obtain ⟨qs, hresolve, hlift⟩ := exists_of_bind_eq_ok hlift
  obtain ⟨rfl, rfl⟩ := Prod.mk.inj (Except.ok.inj hlift)
  exact ⟨es, listAt_of_commaList (fun _ _ _ ↦ entryAt_of_paramEntry hinner) hes, hresolve⟩

/-- **A signature that was read is written as one.** -/
theorem signatureAt_of_signatureOf
    (hinner : ∀ ts s rest, inner.run ts = .ok (s, rest) → TypeAt ts s rest) {sig : Signature}
    (h : (signatureOf inner).run ts = .ok (sig, rest)) : ∃ es fs, SignatureAt sig es fs ts := by
  obtain ⟨_, us, hexpect, hlists⟩ := exists_run_of_bind h
  obtain ⟨t, rfl, ht⟩ := exists_cons_of_expect (by decide) hexpect
  obtain ⟨ps, vs, hparams, hafter⟩ := exists_run_of_bind hlists
  obtain ⟨es, hes, hresolve⟩ := listAt_of_paramList hinner hparams
  obtain ⟨b, ws, haccept, hresults⟩ := exists_run_of_bind hafter
  obtain ⟨rfl, o, rfl, ho⟩ | ⟨rfl, rfl⟩ := accept_cases (by decide) haccept
  · rw [if_pos rfl] at hresults
    obtain ⟨rs, _, hrs, hsig⟩ := exists_run_of_bind hresults
    obtain ⟨rfl, rfl⟩ := Prod.mk.inj (Except.ok.inj hsig)
    obtain ⟨fs, hfs, hresolve'⟩ := listAt_of_paramList hinner hrs
    exact ⟨es, fs, ⟨t, us, _, _, rfl, ht, hes, .list ho hfs⟩, hresolve, hresolve'⟩
  · rw [if_neg (by decide), StateT.run_bind, run_kind, ok_bind] at hresults
    split at hresults
    · obtain ⟨s, _, hs, hsig⟩ := exists_run_of_bind hresults
      obtain ⟨rfl, rfl⟩ := Prod.mk.inj (Except.ok.inj hsig)
      exact ⟨es, _, ⟨t, us, _, _, rfl, ht, hes, .type (hinner _ _ _ hs)⟩, hresolve, rfl⟩
    · obtain ⟨rfl, rfl⟩ := Prod.mk.inj (Except.ok.inj hresults)
      exact ⟨es, [], ⟨t, us, _, _, rfl, ht, hes, .none⟩, hresolve, rfl⟩

end Runs

/-! ### Expressions -/

section Expressions

variable {I : List Token → Prop} [KeptBySuffixes I] {Q : Shape → Prop} {inner : Parser Expr}

/-- A composite literal after a name has that name as its type. -/
theorem ensuresOn_pathOrComposite (hident : ∀ n, Q (.ofIdent n))
    (hqualified : ∀ q n, Q (.ofQualified q n)) (name : String) (span : Span) :
    EnsuresOn I (pathOrComposite name span) fun e ↦ ∀ s ∈ e.shapes, Q s := by
  refine (ensuresOn_selectors namesOn_true).bind fun names _ ↦ (ensures_accept _).bind fun _ _ ↦
    ensures_ite (fun _ ↦ ?_) fun _ ↦ ?_
  · refine (ensures_expect _).bind fun _ _ ↦ ?_
    split
    · exact ensures_pure (List.forall_mem_singleton.2 (hident _))
    · exact ensures_pure (List.forall_mem_singleton.2 (hqualified _ _))
    · exact ensures_throw _
  · exact ensures_pure (by simp)

theorem ensuresOn_primary (hshape : EnsuresOn I shape Q) (hident : ∀ n, Q (.ofIdent n))
    (hqualified : ∀ q n, Q (.ofQualified q n))
    (hinner : EnsuresOn I inner fun e ↦ ∀ s ∈ e.shapes, Q s) :
    EnsuresOn I (primary inner) fun e ↦ ∀ s ∈ e.shapes, Q s := by
  have hliteral (text : String) : EnsuresOn I (do
      skip
      return Expr.literal text) fun e ↦ ∀ s ∈ e.shapes, Q s :=
    ensures_skip.bind fun _ _ ↦ ensures_pure (by simp)
  have hcomposite : EnsuresOn I (do compositeOf (← shape)) fun e ↦ ∀ s ∈ e.shapes, Q s :=
    hshape.bind fun s hs ↦ (ensures_expect _).bind fun _ _ ↦ (ensures_expect _).bind fun _ _ ↦
      ensures_pure (List.forall_mem_singleton.2 hs)
  refine ensures_peek.bind fun t _ ↦ ?_
  split
  · exact hliteral _
  · exact hliteral _
  · exact hliteral _
  · exact hliteral _
  · exact hcomposite
  · exact hcomposite
  · exact hcomposite
  · exact ensures_skip.bind fun _ _ ↦ ensuresOn_pathOrComposite hident hqualified _ _
  · exact ensures_skip.bind fun _ _ ↦ hinner.bind fun _ he ↦ (ensures_expect _).bind fun _ _ ↦
      ensures_pure he
  · exact ensures_unexpected _

/-- Calls add the types in their arguments. -/
theorem forall_shapes_foldl_call {lists : List (List Expr)}
    (hlists : ∀ args ∈ lists, ∀ a ∈ args, ∀ s ∈ a.shapes, Q s) {e : Expr}
    (he : ∀ s ∈ e.shapes, Q s) : ∀ s ∈ (lists.foldl .call e).shapes, Q s := by
  induction lists generalizing e with
  | nil => exact he
  | cons args lists ih =>
    obtain ⟨hargs, hlists⟩ := List.forall_mem_cons.1 hlists
    refine ih hlists fun s hs ↦ ?_
    obtain hs | ⟨a, ha, hs⟩ := Expr.mem_shapes_call.1 hs
    · exact he s hs
    · exact hargs a ha s hs

/-- **What holds of the types that are read holds of those of composite literals.** -/
theorem ensuresOn_exprWithin (hshape : EnsuresOn I shape Q) (hident : ∀ n, Q (.ofIdent n))
    (hqualified : ∀ q n, Q (.ofQualified q n)) (budget : Nat) :
    EnsuresOn I (exprWithin budget) fun e ↦ ∀ s ∈ e.shapes, Q s := by
  induction budget with
  | zero => exact ensures_overBudget
  | succ budget ih =>
    refine ensures_kind.bind fun _ _ ↦ ?_
    split
    · exact ensures_skip.bind fun _ _ ↦ ih.bind fun _ he ↦ ensures_pure he
    · refine (ensuresOn_primary hshape hident hqualified ih).bind fun e he ↦ ?_
      refine (ensuresOn_argumentLists (ensuresOn_argument ih (fun _ he ↦ he)
        fun _ he ↦ he)).bind fun lists hlists ↦ ensures_pure ?_
      exact forall_shapes_foldl_call hlists he

end Expressions

/-! ### Files -/

/-- The signature is written somewhere among the tokens. -/
def IsWrittenIn (source : List Token) (sig : Signature) : Prop :=
  ∃ ts es fs, ts <:+ source ∧ SignatureAt sig es fs ts

section Files

variable {source : List Token} {inner : Parser Shape}

/-- The signature of a function type is written among the tokens. -/
def SignedIn (source : List Token) (t : Shape) : Prop :=
  ∀ sig ∈ t.signature?, IsWrittenIn source sig

/-- There is no signature in a name. -/
theorem signedIn_ofIdent (n : String) : (Shape.ofIdent n).Everywhere (SignedIn source) := by
  unfold Shape.ofIdent
  split
  · simp [SignedIn, Shape.signature?]
  · split <;> simp [SignedIn, Shape.signature?]

theorem signedIn_ofQualified (q n : String) :
    (Shape.ofQualified q n).Everywhere (SignedIn source) := by
  unfold Shape.ofQualified
  split <;> simp [SignedIn, Shape.signature?]

theorem ensures_paramList_signedIn
    (h : EnsuresOn (· <:+ source) inner (Shape.Everywhere (SignedIn source))) :
    EnsuresOn (· <:+ source) (paramList inner)
      fun ps ↦ ∀ p ∈ ps, p.shape.Everywhere (SignedIn source) := by
  have hentry : EnsuresOn (· <:+ source) (paramEntry inner)
      fun e ↦ ∀ s ∈ e.shape?, s.Everywhere (SignedIn source) :=
    ensuresOn_paramEntry namesOn_true h (fun _ _ _ _ hs ↦ nomatch hs)
      (fun _ _ hs _ ht ↦ Option.some.inj ht ▸ hs) fun _ _ _ _ hs _ ht ↦ Option.some.inj ht ▸ hs
  refine ensuresOn_paramList hentry fun es ps hes hps p hp ↦ ?_
  obtain ⟨e, he, hs | ⟨n, -, hs⟩⟩ := (mem_of_resolveParams hps hp).2
  · exact hes e he _ hs
  · exact hs ▸ signedIn_ofIdent n

/-- The signature itself is written where it was read, and those in its types are by assumption. -/
theorem ensures_signatureOf_signedIn
    (hinner : ∀ ts s rest, inner.run ts = .ok (s, rest) → TypeAt ts s rest)
    (h : EnsuresOn (· <:+ source) inner (Shape.Everywhere (SignedIn source))) :
    EnsuresOn (· <:+ source) (signatureOf inner)
      fun sig ↦ (Shape.function sig).Everywhere (SignedIn source) := by
  intro ts hts sig rest hrun
  have hlists := ensuresOn_signatureOf (ensures_paramList_signedIn h) h (by simp)
    fun _ hs ↦ List.forall_mem_singleton.2 hs
  obtain ⟨⟨hparams, hresults⟩, hrest⟩ := hlists ts hts sig rest hrun
  obtain ⟨es, fs, hsig⟩ := signatureAt_of_signatureOf hinner hrun
  obtain ⟨ps, rs⟩ := sig
  refine ⟨Shape.everywhere_function.2 ⟨?_, hparams, hresults⟩, hrest⟩
  rintro _ ⟨rfl⟩
  exact ⟨ts, es, fs, hts, hsig⟩

/-- Only function types have a signature, so there is nothing to show for other types. -/
theorem typeRules_signedIn : TypeRules (· <:+ source) (fun _ ↦ True) (SignedIn source) where
  names := namesOn_true
  plain s hs := by cases s <;> simp_all [Shape.isPlain, SignedIn, Shape.signature?]
  ident n _ := signedIn_ofIdent n
  qualified q n _ _ := signedIn_ofQualified q n
  function budget h := ensures_signatureOf_signedIn (fun _ _ _ hrun ↦ ⟨budget, hrun⟩) h

theorem typeAt_of_shape {ts rest : List Token} {s : Shape} (h : shape.run ts = .ok (s, rest)) :
    TypeAt ts s rest := by
  obtain ⟨us, _, hget, hrun⟩ := exists_run_of_bind h
  obtain ⟨rfl, rfl⟩ := Prod.mk.inj (Except.ok.inj hget)
  exact ⟨_, hrun⟩

theorem ensures_shape_signedIn :
    EnsuresOn (· <:+ source) shape (Shape.Everywhere (SignedIn source)) :=
  ensuresOn_shape typeRules_signedIn

theorem ensures_signature_signedIn : EnsuresOn (· <:+ source) signature
    fun sig ↦ (Shape.function sig).Everywhere (SignedIn source) :=
  ensures_signatureOf_signedIn (fun _ _ _ ↦ typeAt_of_shape) ensures_shape_signedIn

/-- The type of a member, with the signature of a method as the type of a function. -/
def Member.shape : Member → Shape
  | .method m => .function m.signature
  | .embedded s => s

/-- The signatures of methods count, and those in the types of fields. -/
theorem ensures_typeSpec_signedIn : EnsuresOn (· <:+ source) typeSpec
    fun spec ↦ ∀ s ∈ (Decl.type spec).allShapes, s.Everywhere (SignedIn source) := by
  have hmember : EnsuresOn (· <:+ source) member fun m ↦ m.shape.Everywhere (SignedIn source) :=
    ensuresOn_member namesOn_true ensures_signature_signedIn (fun _ _ _ hsig ↦ hsig)
      (fun n _ ↦ signedIn_ofIdent n) fun q n _ _ ↦ signedIn_ofQualified q n
  have hdefinition : EnsuresOn (· <:+ source) typeExpr fun t ↦
      ∀ n, ∀ s ∈ (Decl.type ⟨n, t⟩).allShapes, s.Everywhere (SignedIn source) := by
    refine ensuresOn_typeExpr ?_ ?_ ?_
    · exact ensures_shape_signedIn.mono fun s hs n ↦ List.forall_mem_singleton.2 hs
    · refine (ensuresOn_interfaceBody hmember).mono fun body h n ↦ ?_
      exact List.forall_mem_append.2
        ⟨List.forall_mem_append.2 ⟨List.forall_mem_map.2 h.1, h.2⟩, by simp [Decl.value?]⟩
    · refine (ensuresOn_structBody namesOn_true ensures_shape_signedIn).mono fun fields h n ↦ ?_
      simpa [Decl.allShapes, Decl.shapes, TypeExpr.shapes, Decl.embedded, Decl.value?] using
        fun f hf ↦ (h f hf).2
  exact (ensuresOn_typeSpec namesOn_true hdefinition).mono fun spec h ↦ h.2 spec.name

theorem ensures_funcDecl_signedIn : EnsuresOn (· <:+ source) funcDecl
    fun f ↦ ∀ s ∈ (Decl.func f).allShapes, s.Everywhere (SignedIn source) := by
  have hreceiver : EnsuresOn (· <:+ source) receiver
      fun r ↦ ∀ p ∈ r.toList, p.shape.Everywhere (SignedIn source) :=
    ensuresOn_receiver (ensures_paramList_signedIn ensures_shape_signedIn) (by simp)
  have hblock : EnsuresOn (· <:+ source) block fun _ ↦ True :=
    ensuresOn_block fun _ _ _ _ _ _ _ ↦ trivial
  refine (ensuresOn_funcDecl namesOn_true hreceiver ensures_signature_signedIn hblock).mono
    fun f h ↦ ?_
  have hshapes : ∀ s ∈ (Decl.func f).shapes, s.Everywhere (SignedIn source) :=
    List.forall_mem_cons.2 ⟨h.2.2.1, List.forall_mem_map.2 h.1⟩
  simpa [Decl.allShapes, Decl.embedded, Decl.value?] using hshapes

theorem ensures_varSpec_signedIn : EnsuresOn (· <:+ source) varSpec
    fun v ↦ ∀ s ∈ (Decl.var v).allShapes, s.Everywhere (SignedIn source) := by
  have hexpr : EnsuresOn (· <:+ source) expr
      fun e ↦ ∀ s ∈ e.shapes, s.Everywhere (SignedIn source) :=
    ensures_get.bind fun _ _ ↦ ensuresOn_exprWithin ensures_shape_signedIn signedIn_ofIdent
      signedIn_ofQualified _
  refine (ensuresOn_varSpec namesOn_true ensures_shape_signedIn hexpr).mono fun v h s hs ↦ ?_
  rcases List.mem_append.1 hs with hs | hs
  · have hshape : s ∈ v.shape.toList ++ [] := hs
    rw [List.append_nil] at hshape
    exact h.2.1 s (Option.mem_toList.1 hshape)
  · obtain ⟨e, he, hs⟩ := List.mem_flatMap.1 hs
    exact h.2.2 e (Option.mem_toList.1 he) s hs

/-- **Every signature of a file is written in it.** -/
theorem ensures_file_isWrittenIn :
    EnsuresOn (· <:+ source) file fun f ↦ ∀ sig ∈ f.signatures, IsWrittenIn source sig := by
  have hdecls : EnsuresOn (· <:+ source) topLevel
      fun ds ↦ ∀ d ∈ ds, ∀ s ∈ d.allShapes, s.Everywhere (SignedIn source) :=
    ensuresOn_topLevel ensures_typeSpec_signedIn ensures_funcDecl_signedIn ensures_varSpec_signedIn
  refine (ensuresOn_file hdecls).mono fun f h sig hsig ↦ ?_
  obtain ⟨d, hd, hsig⟩ := List.mem_flatMap.1 hsig
  obtain ⟨s, hs, hsig⟩ := List.mem_flatMap.1 hsig
  obtain ⟨t, ht, hsig⟩ := List.mem_filterMap.1 hsig
  exact h d hd s hs t ht sig hsig

end Files

end Parser

end GoDecorator
