import GoDecorator.Proofs.Expr.Written
import GoDecorator.Proofs.Reading.Types

/-!
# Reading written expressions back

What the parser for expressions does with the tokens of a written expression. **The tokens of a
written expression are read as the expression** wherever the next token does not go on with it
(`reads_expr`).

## Calls

Calls are nested to the left, but the parser reads what is called first and then one argument list
after the other. So an expression is seen here as its root and its argument lists (`Expr.root`,
`Expr.argLists`), which are folded back together in the end (`Expr.foldl_argLists`). In this form
the proof follows the parser: `reads_primary_root` for the root, `reads_argumentLists` for the rest.

## Roots

What is called, or stands without a call, is a path, a literal or a composite literal
(`Expr.root_cases`), unless it starts with an operator. A name alone does not settle which of them
it is: the parser decides between a path and the type of a composite literal by the braces after it,
so nothing that is followed by an opening brace is read as a path (`EndsPath`).

## The induction

It is on the budget of the parser: the operand of an operator and the arguments of a call have fewer
tokens than the whole (`Expr.length_kinds_lt`). An argument may be spread, and a spread argument is
no expression of its own, so the step for arguments is about the expression under the dots.
-/

namespace GoDecorator

open Token

namespace Expr

/-! ### The root and the argument lists -/

/-- What is left of an expression without its calls. -/
def root : Expr → Expr
  | .call f _ => f.root
  | e => e

/-- The argument lists of the calls, the innermost call first. -/
def argLists : Expr → List (List Expr)
  | .call f args => f.argLists ++ [args]
  | _ => []

/-- **An expression is its root, called with its argument lists.** -/
theorem foldl_argLists (e : Expr) : e.argLists.foldl .call e.root = e := by
  induction e using Expr.induct with
  | call f args ih =>
    rw [argLists, root, List.foldl_append, ih]
    rfl
  | _ => rfl

/-- The root is a part of the expression, and so are its parts. -/
theorem parts_root_subset (e : Expr) : e.root.parts ⊆ e.parts := by
  induction e using Expr.induct with
  | call f args ih => exact List.Subset.trans ih (parts_subset_callee f args)
  | _ => exact List.Subset.refl _

/-- So are the arguments. -/
theorem parts_argLists_subset {e : Expr} {args : List Expr} {a : Expr} (hargs : args ∈ e.argLists)
    (ha : a ∈ args) : a.parts ⊆ e.parts := by
  induction e using Expr.induct with
  | call f args' ih =>
    rcases List.mem_append.1 hargs with hargs | hargs
    · exact List.Subset.trans (ih hargs) (parts_subset_callee f args')
    · obtain rfl := List.mem_singleton.1 hargs
      exact parts_subset_arg f ha
  | _ => cases hargs

/-- The root of an operand is a path, a literal or a composite literal. -/
theorem root_cases {e : Expr} (hwf : e.WellFormed) (hr : e.Reprintable)
    (hoperand : e.isOperand = true) :
    (∃ path, e.root = .ident path) ∨ (∃ t, e.root = .literal t) ∨ ∃ s, e.root = .composite s := by
  induction e using Expr.induct with
  | ident path => exact .inl ⟨path, rfl⟩
  | literal t => exact .inr (.inl ⟨t, rfl⟩)
  | composite s => exact .inr (.inr ⟨s, rfl⟩)
  | call f args ih =>
    have hsub := parts_subset_callee f args
    exact ih (hwf.of_subset hsub) (hr.of_subset hsub) (isOperand_callee hwf hr)
  | unary | spread => cases hoperand

end Expr

/-- The tokens of an argument list. -/
def listKinds (args : List Expr) : List Kind :=
  .opening .paren :: Parser.commaKinds (args.map fun a ↦ kinds a.atoms)

/-- The tokens of an expression are those of its root and its argument lists. -/
theorem Expr.kinds_atoms (e : Expr) :
    kinds e.atoms = kinds e.root.atoms ++ e.argLists.flatMap listKinds := by
  induction e using Expr.induct with
  | call f args ih =>
    have hlist : kinds (.token (.opening .paren) ::
        (commaAtoms (atomsOfArgs args) ++ [.token (.closing .paren)])) = listKinds args := by
      simp [listKinds, Parser.commaKinds, kinds_commaAtoms, atomsOfArgs_eq_map, Function.comp_def]
    rw [atoms, kinds_append, ih, hlist, root, argLists, List.flatMap_append, List.append_assoc,
      List.flatMap_singleton]
  | _ => simp [root, argLists]

/-- An argument has fewer tokens than the expression. -/
theorem Expr.length_kinds_lt {e a : Expr} {args : List Expr} (hargs : args ∈ e.argLists)
    (ha : a ∈ args) : (kinds a.atoms).length < (kinds e.atoms).length := by
  have hitem := Parser.length_le_of_mem_commaKinds
    (List.mem_map_of_mem (f := fun a : Expr ↦ kinds a.atoms) ha)
  have hlist : (listKinds args).length ≤ (e.argLists.flatMap listKinds).length := by
    obtain ⟨before, after, heq⟩ := List.append_of_mem hargs
    rw [heq, List.flatMap_append, List.flatMap_cons, List.length_append, List.length_append]
    omega
  rw [e.kinds_atoms, List.length_append]
  rw [listKinds, List.length_cons] at hlist
  omega

namespace Parser

/-! ### Paths -/

/-- A token that does not go on with a path. -/
def EndsPath (k : Kind) : Prop := k ≠ .opening .brace ∧ k ≠ .dot

/-- A token that does not go on with an expression. -/
def EndsExpr (k : Kind) : Prop := EndsPath k ∧ k ≠ .opening .paren

/-- The tokens of selectors. -/
theorem kinds_selectorAtoms (names : List String) :
    kinds (selectorAtoms names) = names.flatMap fun n ↦ [.dot, .ident n] := by
  induction names with
  | nil => rfl
  | cons n names ih => simpa [selectorAtoms] using ih

/-- **Names after points are read as selectors.** -/
theorem reads_selectors (names : List String) :
    Reads selectors (kinds (selectorAtoms names)) (· ≠ .dot) (· = names) := by
  rw [kinds_selectorAtoms]
  refine reads_rounds (fun n _ ts rest hts _ ↦ ?_) (by simp) fun rest hrest ↦ ?_
  · obtain ⟨t, ts, rfl, ht, hts⟩ := List.map_eq_cons_iff.1 hts
    obtain ⟨u, rfl, hu⟩ := List.map_eq_singleton_iff.1 hts
    exact ⟨_, rfl, by simp [ht, hu]⟩
  · rw [StateT.run_bind, run_kind, ok_bind, StateT.run_bind, run_secondKind?, ok_bind]
    split
    next hdot _ => exact absurd hdot hrest
    next => rfl

/-- An identifier starts a path or the type of a composite literal. -/
theorem run_primary_ident {inner : Parser Expr} {t : Token} {n : String} (ht : t.kind = .ident n)
    (ts : List Token) :
    (primary inner).run (t :: ts) = (pathOrComposite n t.span).run ts := by
  simp [primary, ht]

/-- A path is read as an identifier. -/
theorem reads_primary_path {inner : Parser Expr} {names : List String} (hne : names ≠ []) :
    Reads (primary inner) (kinds (pathAtoms names)) EndsPath
      (· = .ident (".".intercalate names)) := by
  intro ts rest hts hrest
  obtain ⟨n, names, rfl⟩ := List.exists_cons_of_ne_nil hne
  obtain ⟨t, ts, rfl, ht, hts⟩ := List.map_eq_cons_iff.1 hts
  obtain ⟨_, rfl, hselectors⟩ := reads_selectors names ts rest hts hrest.2
  refine ⟨_, rfl, ?_⟩
  rw [List.cons_append, run_primary_ident ht]
  simp [pathOrComposite, hselectors, run_accept, hrest.1]

/-- A name in front of empty braces is read as the type of a composite literal. -/
theorem reads_primary_ident_braces (inner : Parser Expr) (n : String) (follow : Kind → Prop) :
    Reads (primary inner) [.ident n, .opening .brace, .closing .brace] follow
      (· = .composite (.ofIdent n)) := by
  intro ts rest hts _
  obtain ⟨t, ts, rfl, ht, hts⟩ := List.map_eq_cons_iff.1 hts
  obtain ⟨u, ts, rfl, hu, hts⟩ := List.map_eq_cons_iff.1 hts
  obtain ⟨v, rfl, hv⟩ := List.map_eq_singleton_iff.1 hts
  obtain ⟨_, rfl, hselectors⟩ := reads_selectors [] [] (u :: v :: rest) rfl (by simp [hu])
  refine ⟨_, rfl, ?_⟩
  rw [List.nil_append] at hselectors
  rw [List.cons_append, run_primary_ident ht]
  simp [pathOrComposite, hselectors, run_accept, run_expect, hu, hv]

/-- So are two names with a point between them. -/
theorem reads_primary_qualified_braces (inner : Parser Expr) (q n : String)
    (follow : Kind → Prop) :
    Reads (primary inner) [.ident q, .dot, .ident n, .opening .brace, .closing .brace] follow
      (· = .composite (.ofQualified q n)) := by
  intro ts rest hts _
  obtain ⟨t, ts, rfl, ht, hts⟩ := List.map_eq_cons_iff.1 hts
  have happend : ts.map Token.kind =
      kinds (selectorAtoms [n]) ++ [.opening .brace, .closing .brace] := hts
  obtain ⟨ts₁, ts₂, rfl, hts₁, hts₂⟩ := List.map_eq_append_iff.1 happend
  obtain ⟨u, ts₂, rfl, hu, hts₂⟩ := List.map_eq_cons_iff.1 hts₂
  obtain ⟨v, rfl, hv⟩ := List.map_eq_singleton_iff.1 hts₂
  obtain ⟨_, rfl, hselectors⟩ := reads_selectors [n] ts₁ (u :: v :: rest) hts₁ (by simp [hu])
  refine ⟨_, rfl, ?_⟩
  rw [List.cons_append, List.append_assoc, run_primary_ident ht]
  simp [pathOrComposite, hselectors, run_accept, run_expect, hu, hv]

/-! ### Literals -/

/-- A literal is read as itself. -/
theorem reads_primary_literal {inner : Parser Expr} {t : String} (follow : Kind → Prop) :
    Reads (primary inner) (kinds (Expr.literal t).atoms) follow (· = .literal t) := by
  intro ts rest hts _
  obtain ⟨u, rfl, hu⟩ := List.map_eq_singleton_iff.1 hts
  refine ⟨_, rfl, ?_⟩
  have hliteral := isLiteral_literalKind t
  have htext := text_literalKind t
  rw [← hu] at hliteral htext
  cases hk : u.kind with
  | int text | float text | str text | rune text =>
    rw [hk] at htext
    obtain rfl : text = t := htext
    simp [primary, hk]
  | _ =>
    rw [hk] at hliteral
    cases hliteral

/-- A type that starts with a bracket or a keyword, in front of empty braces. -/
theorem run_primary_shape {inner : Parser Expr} {ts : List Token}
    (hk : (first ts).kind ∈ [.opening .square, .keyword .map, .keyword .struct]) :
    (primary inner).run ts = (shape >>= compositeOf).run ts := by
  rw [primary, StateT.run_bind, run_peek, ok_bind]
  simp only [List.mem_cons, List.not_mem_nil, or_false] at hk
  rcases hk with hk | hk | hk
  · rw [hk]
    rfl
  · rw [hk]
    rfl
  · rw [hk]
    rfl

/-- A composite literal with such a type is read as itself. -/
theorem reads_primary_shape {inner : Parser Expr} {s : Shape} (hs : s.IsSettled) {k : Kind}
    {ks : List Kind} (hkinds : kinds s.atoms = k :: ks)
    (hk : k ∈ [.opening .square, .keyword .map, .keyword .struct]) (follow : Kind → Prop) :
    Reads (primary inner) (kinds (Expr.composite s).atoms) follow (· = .composite s) := by
  intro ts rest hts _
  rw [Expr.atoms, kinds_append] at hts
  obtain ⟨ts₁, ts₂, rfl, hts₁, hts₂⟩ := List.map_eq_append_iff.1 hts
  obtain ⟨u, ts₂, rfl, hu, hts₂⟩ := List.map_eq_cons_iff.1 hts₂
  obtain ⟨v, rfl, hv⟩ := List.map_eq_singleton_iff.1 hts₂
  have hends : EndsType (first (u :: v :: rest)).kind := by
    rw [first_cons, hu]
    exact ⟨rfl, by simp⟩
  obtain ⟨_, rfl, hshape⟩ := reads_shape hs.1.proper hs.2.1 ts₁ (u :: v :: rest) hts₁ hends
  refine ⟨_, rfl, ?_⟩
  have hfirst : (first (ts₁ ++ u :: v :: rest)).kind = k := first_append (hts₁.trans hkinds)
  rw [List.append_assoc, List.cons_append, List.singleton_append,
    run_primary_shape (by rwa [hfirst]), StateT.run_bind, hshape, Shape.reread_of_isSettled hs]
  simp [compositeOf, run_expect, hu, hv]

/-- **A composite literal is read as itself** if its type is. -/
theorem reads_primary_composite {inner : Parser Expr} {s : Shape} (hs : s.IsSettled)
    (hcomposite : s.isComposite = true) (hany : s ≠ .any) (follow : Kind → Prop) :
    Reads (primary inner) (kinds (Expr.composite s).atoms) follow (· = .composite s) := by
  have hreread := Shape.reread_of_isSettled hs
  cases s with
  | primitive p =>
    have hread := reads_primary_ident_braces inner p.text follow
    rwa [Shape.ofIdent_text] at hread
  | named q n =>
    cases q with
    | none =>
      have hname : Shape.ofIdent n = .named none n := hreread
      have hread := reads_primary_ident_braces inner n follow
      rwa [hname] at hread
    | some q =>
      have hname : Shape.ofQualified q n = .named (some q) n := hreread
      have hread := reads_primary_qualified_braces inner q n follow
      rwa [hname] at hread
  | context => exact reads_primary_qualified_braces inner "context" "Context" follow
  | slice s => exact reads_primary_shape hs rfl (by simp) follow
  | map k v => exact reads_primary_shape hs rfl (by simp) follow
  | emptyStruct => exact reads_primary_shape hs rfl (by simp) follow
  | any => exact absurd rfl hany
  | pointer | function | channel => cases hcomposite

/-! ### Roots -/

/-- The types of composite literals are settled. -/
theorem isSettled_of_composite {e : Expr} (hwf : e.WellFormed) (hr : e.Reprintable) {s : Shape}
    (hmem : .composite s ∈ e.parts) : s.IsSettled := by
  obtain ⟨hs, -⟩ : s.WellFormed ∧ s.isComposite = true := hwf _ hmem
  obtain ⟨hturned, hread⟩ := (reads_itself_iff hs).1 (hr.composites s hmem).2
  exact ⟨hs, hread, hturned⟩

/-- **The root of an operand is read as itself.** -/
theorem reads_primary_root {inner : Parser Expr} {e : Expr} (hwf : e.WellFormed)
    (hr : e.Reprintable) (hoperand : e.isOperand = true) :
    Reads (primary inner) (kinds e.root.atoms) EndsPath (· = e.root) := by
  have hmem : e.root ∈ e.parts := e.parts_root_subset e.root.self_mem_parts
  rcases Expr.root_cases hwf hr hoperand with ⟨path, hroot⟩ | ⟨t, hroot⟩ | ⟨s, hroot⟩
  · have hpath := @reads_primary_path inner _ (Expr.pathNames_ne_nil path)
    rw [hroot]
    rwa [Expr.intercalate_pathNames] at hpath
  · rw [hroot]
    exact reads_primary_literal EndsPath
  · rw [hroot] at hmem ⊢
    obtain ⟨-, hcomposite⟩ : s.WellFormed ∧ s.isComposite = true := hwf _ hmem
    exact reads_primary_composite (isSettled_of_composite hwf hr hmem) hcomposite
      (hr.composites s hmem).1 EndsPath

/-- A token that the root of an operand can start with. -/
def StartsRoot (k : Kind) : Prop :=
  k.isLiteral = true ∨ (∃ n, k = .ident n) ∨
    k ∈ [.opening .square, .keyword .map, .keyword .struct]

/-- A root can start an item of a list. -/
theorem StartsRoot.startsItem {k : Kind} (h : StartsRoot k) : StartsItem k := by
  refine ⟨?_, ?_⟩
  · rintro rfl
    simp [StartsRoot, Kind.isLiteral] at h
  · rintro rfl
    simp [StartsRoot, Kind.isLiteral] at h

/-- It is no operator. -/
theorem StartsRoot.ofKind?_eq_none {k : Kind} (h : StartsRoot k) : UnaryOp.ofKind? k = none := by
  rcases h with h | ⟨n, rfl⟩ | h
  · cases k with
    | int | float | str | rune => rfl
    | _ => cases h
  · rfl
  · revert k
    decide

/-- The tokens of a root start as a root does. -/
theorem exists_kinds_root {e : Expr} (hwf : e.WellFormed) (hr : e.Reprintable)
    (hoperand : e.isOperand = true) : ∃ k ks, kinds e.root.atoms = k :: ks ∧ StartsRoot k := by
  have hmem : e.root ∈ e.parts := e.parts_root_subset e.root.self_mem_parts
  rcases Expr.root_cases hwf hr hoperand with ⟨path, hroot⟩ | ⟨t, hroot⟩ | ⟨s, hroot⟩
  · obtain ⟨n, names, hnames⟩ := List.exists_cons_of_ne_nil (Expr.pathNames_ne_nil path)
    rw [hroot, Expr.atoms, hnames]
    exact ⟨_, _, rfl, .inr (.inl ⟨n, rfl⟩)⟩
  · rw [hroot]
    exact ⟨_, _, rfl, .inl (isLiteral_literalKind t)⟩
  · rw [hroot] at hmem ⊢
    obtain ⟨-, hcomposite⟩ : s.WellFormed ∧ s.isComposite = true := hwf _ hmem
    cases s with
    | primitive p => exact ⟨_, _, rfl, .inr (.inl ⟨p.text, rfl⟩)⟩
    | named q n =>
      cases q with
      | none => exact ⟨_, _, rfl, .inr (.inl ⟨n, rfl⟩)⟩
      | some q => exact ⟨_, _, rfl, .inr (.inl ⟨q, rfl⟩)⟩
    | context => exact ⟨_, _, rfl, .inr (.inl ⟨"context", rfl⟩)⟩
    | slice | map | emptyStruct => exact ⟨_, _, rfl, .inr (.inr (by simp))⟩
    | any => exact absurd rfl (hr.composites _ hmem).1
    | pointer | function | channel => cases hcomposite

/-! ### Argument lists -/

/-- The tokens of an expression start with one that an item of a list can start with. -/
theorem exists_kinds_expr {e : Expr} (hwf : e.WellFormed) (hr : e.Reprintable) :
    ∃ k ks, kinds e.atoms = k :: ks ∧ StartsItem k := by
  induction e using Expr.induct with
  | unary op e =>
    have hstart : StartsItem op.kind := by
      cases op <;> simp [UnaryOp.kind, StartsItem]
    exact ⟨op.kind, _, rfl, hstart⟩
  | spread e ih =>
    have hsub := Expr.parts_subset_spread e
    obtain ⟨k, ks, hk, hstart⟩ := ih (hwf.of_subset hsub) (hr.of_subset hsub)
    exact ⟨k, ks ++ [.ellipsis], by simp [Expr.atoms, hk], hstart⟩
  | _ =>
    obtain ⟨k, ks, hk, hstart⟩ := exists_kinds_root hwf hr rfl
    rw [Expr.kinds_atoms, hk]
    exact ⟨k, _, rfl, hstart.startsItem⟩

/-- What ends an item of a list does not go on with an expression. -/
theorem EndsItem.endsExpr {k : Kind} (h : EndsItem k) : EndsExpr k := by
  rcases h with rfl | rfl
  · exact ⟨⟨by simp, by simp⟩, by simp⟩
  · exact ⟨⟨by simp, by simp⟩, by simp⟩

/-- An argument is read as itself if its operand is, where it is spread, or else the argument. -/
theorem reads_argument {inner : Parser Expr} {a : Expr}
    (hplain : a.isSpread = false → Reads inner (kinds a.atoms) EndsExpr (· = a))
    (hspread : ∀ x, a = .spread x → Reads inner (kinds x.atoms) EndsExpr (· = x)) :
    Reads (argument inner) (kinds a.atoms) EndsItem (· = a) := by
  intro ts rest hts hrest
  refine ⟨_, rfl, ?_⟩
  by_cases h : a.isSpread = true
  · cases a with
    | spread x =>
      rw [Expr.atoms, kinds_append] at hts
      obtain ⟨ts₁, ts₂, rfl, hts₁, hts₂⟩ := List.map_eq_append_iff.1 hts
      obtain ⟨t, rfl, ht⟩ := List.map_eq_singleton_iff.1 hts₂
      have hends : EndsExpr (first (t :: rest)).kind := by
        rw [first_cons, ht]
        exact ⟨⟨by simp, by simp⟩, by simp⟩
      obtain ⟨_, rfl, hrun⟩ := hspread x rfl ts₁ (t :: rest) hts₁ hends
      rw [List.append_assoc, List.singleton_append, argument, StateT.run_bind, hrun]
      simp [run_accept, ht]
    | _ => cases h
  · obtain ⟨_, rfl, hrun⟩ := hplain (by simpa using h) ts rest hts hrest.endsExpr
    have hne : (first rest).kind ≠ .ellipsis := by
      rcases hrest with hk | hk <;> simp [hk]
    rw [argument, StateT.run_bind, hrun]
    simp [run_accept, hne]

/-- **Argument lists are read one after the other.** -/
theorem reads_argumentLists {inner : Parser Expr} {lists : List (List Expr)}
    (harg : ∀ args ∈ lists, ∀ a ∈ args, Reads (argument inner) (kinds a.atoms) EndsItem (· = a))
    (hstart : ∀ args ∈ lists, ∀ a ∈ args, ∃ k ks, kinds a.atoms = k :: ks ∧ StartsItem k) :
    Reads (argumentLists inner) (lists.flatMap listKinds) (· ≠ .opening .paren) (· = lists) := by
  rw [argumentLists_eq]
  refine reads_rounds (fun args hargs ts rest hts _ ↦ ?_) (by simp [listKinds])
    fun rest hrest ↦ run_callRound_stop hrest
  obtain ⟨t, ts, rfl, ht, hts⟩ := List.map_eq_cons_iff.1 hts
  obtain ⟨as, has, hrun⟩ := reads_commaList (harg args hargs) (hstart args hargs) (fun _ ↦ True)
    ts rest hts trivial
  obtain rfl : as = args := by
    have hflip : List.Forall₂ (· = ·) as args := has.flip
    rwa [List.forall₂_eq_eq_eq] at hflip
  exact ⟨_, rfl, by simp [callRound, run_accept, ht, hrun]⟩

/-! ### Expressions -/

/-- An operand is read as its root, called with its argument lists. -/
theorem reads_exprWithin_operand {budget : Nat} {e : Expr} (hwf : e.WellFormed)
    (hr : e.Reprintable) (hoperand : e.isOperand = true)
    (harg : ∀ args ∈ e.argLists, ∀ a ∈ args,
      Reads (argument (exprWithin budget)) (kinds a.atoms) EndsItem (· = a)) :
    Reads (exprWithin (budget + 1)) (kinds e.atoms) EndsExpr (· = e) := by
  intro ts rest hts hrest
  obtain ⟨k, ks, hk, hstart⟩ := exists_kinds_root hwf hr hoperand
  rw [Expr.kinds_atoms] at hts
  have hfirst : (first (ts ++ rest)).kind = k := first_append (by rw [hts, hk]; rfl)
  obtain ⟨ts₁, ts₂, rfl, hts₁, hts₂⟩ := List.map_eq_append_iff.1 hts
  -- after the root there is an argument list or the end of the expression
  have hends : EndsPath (first (ts₂ ++ rest)).kind := by
    cases hlists : e.argLists with
    | nil =>
      rw [hlists] at hts₂
      obtain rfl := List.map_eq_nil_iff.1 hts₂
      exact hrest.1
    | cons args lists =>
      rw [hlists] at hts₂
      rw [first_append hts₂]
      exact ⟨by simp, by simp⟩
  obtain ⟨_, rfl, hroot⟩ := @reads_primary_root (exprWithin budget) _ hwf hr hoperand ts₁
    (ts₂ ++ rest) hts₁ hends
  obtain ⟨_, rfl, hlists⟩ := reads_argumentLists harg (fun args hargs a ha ↦
    have hsub := Expr.parts_argLists_subset hargs ha
    exists_kinds_expr (hwf.of_subset hsub) (hr.of_subset hsub)) ts₂ rest hts₂ hrest.2
  refine ⟨_, rfl, ?_⟩
  rw [exprWithin, StateT.run_bind, run_kind, ok_bind, hfirst, hstart.ofKind?_eq_none,
    List.append_assoc, StateT.run_bind, hroot, ok_bind, StateT.run_bind, hlists, ok_bind,
    e.foldl_argLists]
  rfl

/-- **A written expression is read as itself** if the budget is at least the number of its tokens.
-/
theorem reads_exprWithin {budget : Nat} {e : Expr} (hwf : e.WellFormed)
    (hplain : e.isSpread = false) (hr : e.Reprintable) (hb : (kinds e.atoms).length ≤ budget) :
    Reads (exprWithin budget) (kinds e.atoms) EndsExpr (· = e) := by
  induction budget generalizing e with
  | zero =>
    obtain ⟨k, ks, hk, -⟩ := exists_kinds_expr hwf hr
    simp [hk] at hb
  | succ budget ih =>
    by_cases hoperand : e.isOperand = true
    · refine reads_exprWithin_operand hwf hr hoperand fun args hargs a ha ↦ ?_
      have hsub := Expr.parts_argLists_subset hargs ha
      have hlt := Expr.length_kinds_lt hargs ha
      refine reads_argument (fun h ↦ ?_) fun x hx ↦ ?_
      · exact ih (hwf.of_subset hsub) h (hr.of_subset hsub) (by omega)
      · subst hx
        have hsub' := List.Subset.trans (Expr.parts_subset_spread x) hsub
        obtain ⟨hx, -⟩ := Expr.wellFormed_spread.1 (hwf.of_subset hsub)
        rw [Expr.atoms, kinds_append, List.length_append] at hlt
        exact ih (hwf.of_subset hsub') hx (hr.of_subset hsub') (by omega)
    · obtain ⟨op, x, rfl⟩ : ∃ op x, e = .unary op x := by
        cases e with
        | unary op x => exact ⟨op, x, rfl⟩
        | spread x => cases hplain
        | _ => exact absurd rfl hoperand
      have hsub := Expr.parts_subset_unary op x
      obtain ⟨hx, -⟩ := Expr.wellFormed_unary.1 hwf
      intro ts rest hts hrest
      obtain ⟨t, ts, rfl, ht, hts⟩ := List.map_eq_cons_iff.1 hts
      obtain ⟨_, rfl, hrun⟩ := ih (hwf.of_subset hsub) hx (hr.of_subset hsub)
        (Nat.le_of_succ_le_succ hb) ts rest hts hrest
      refine ⟨_, rfl, ?_⟩
      rw [List.cons_append, exprWithin, StateT.run_bind, run_kind, ok_bind, first_cons, ht,
        UnaryOp.ofKind?_kind, StateT.run_bind, run_skip, ok_bind, List.tail_cons, StateT.run_bind,
        hrun]
      rfl

/-- **A written expression is read as itself.** -/
theorem reads_expr {e : Expr} (hwf : e.WellFormed) (hplain : e.isSpread = false)
    (hr : e.Reprintable) : Reads expr (kinds e.atoms) EndsExpr (· = e) := by
  intro ts rest hts hrest
  rw [run_expr]
  refine reads_exprWithin hwf hplain hr ?_ ts rest hts hrest
  exact length_kinds_le hts

end Parser

end GoDecorator
