import GoDecorator.Expr.Parser
import GoDecorator.Proofs.Shape.Soundness
import GoDecorator.Proofs.Token.Fading

/-!
# Expressions that the parser makes

**Every expression that the parser makes is well-formed** (`makes_expr`): its paths are names joined
by points, its literals are those of the lexer, the types of its composite literals are well-formed,
and only an argument of a call is spread.

`Expr.WellFormed` asks one thing of each part of an expression (`Expr.IsFormed`), and `Expr.parts`
lists the parts. So a property of a compound expression is one of its head together with those of
the expressions in it, and for each form there is a lemma that says so.

## Literals without their closing quote

One condition concerns the token after the expression. A literal without its closing quote is
followed by the end of the line (`endsLine_of_isUnclosed`), so nothing stands after it that the
parser would take for a call: an expression that ends in such a literal is called by nothing. That
is why `Makes` says what a parser returns together with the next token, and why it is not a case of
`Ensures`. Most operands do not end in a literal at all; for these `Settled` is the stronger
statement, which needs no next token.

## Composite literals

The parser makes a composite literal from a name, or from a type that starts with a bracket, with
`map` or with `struct`. A type that is read from such a token is no pointer, no function type and no
channel (`isComposite_of_run_shape`), so these never are the types of composite literals.
-/

namespace GoDecorator

open Token

namespace Expr

/-! ### Parts -/

mutual

/-- The expression and all expressions inside it. -/
def parts : Expr → List Expr
  | .ident path => [.ident path]
  | .literal t => [.literal t]
  | .composite s => [.composite s]
  | .unary op e => .unary op e :: parts e
  | .call f args => .call f args :: (parts f ++ partsOfArgs args)
  | .spread e => .spread e :: parts e

/-- The expressions inside arguments. -/
def partsOfArgs : List Expr → List Expr
  | [] => []
  | e :: es => parts e ++ partsOfArgs es

end

theorem mem_partsOfArgs {x : Expr} {args : List Expr} :
    x ∈ partsOfArgs args ↔ ∃ a ∈ args, x ∈ a.parts := by
  induction args with
  | nil => simp [partsOfArgs]
  | cons a args ih => simp [partsOfArgs, ih]

theorem self_mem_parts (e : Expr) : e ∈ e.parts := by
  cases e <;> exact List.mem_cons_self ..

/-- The parts of an operand are parts of the expression. -/
theorem parts_subset_unary (op : UnaryOp) (e : Expr) : e.parts ⊆ (unary op e).parts :=
  List.subset_cons_self ..

theorem parts_subset_spread (e : Expr) : e.parts ⊆ (spread e).parts := List.subset_cons_self ..

/-- The parts of what is called are parts of the call. -/
theorem parts_subset_callee (f : Expr) (args : List Expr) : f.parts ⊆ (call f args).parts :=
  fun _ hx ↦ List.mem_cons_of_mem _ (List.mem_append_left _ hx)

/-- The parts of an argument are parts of the call. -/
theorem parts_subset_arg (f : Expr) {args : List Expr} {a : Expr} (ha : a ∈ args) :
    a.parts ⊆ (call f args).parts :=
  fun _ hx ↦ List.mem_cons_of_mem _ (List.mem_append_right _ (mem_partsOfArgs.2 ⟨a, ha, hx⟩))

/-! ### The last literal -/

/-- The literal that the written form of an expression ends in, if it ends in one. -/
def lastLiteral? : Expr → Option String
  | .literal t => some t
  | .unary _ e => lastLiteral? e
  | _ => none

/-- The last literal is a part. -/
theorem literal_mem_parts {e : Expr} {t : String} (h : e.lastLiteral? = some t) :
    .literal t ∈ e.parts := by
  induction e using Expr.induct with
  | literal u =>
    obtain rfl := Option.some.inj h
    exact self_mem_parts _
  | unary op e ih => exact parts_subset_unary op e (ih h)
  | ident | composite | call | spread => cases h

/-- Whether the written form ends in a literal without its closing quote. -/
def endsOpen (e : Expr) : Bool := e.lastLiteral?.any isUnclosed

/-! ### What is claimed -/

/-- The names of a path. -/
def pathNames (path : String) : List String := (path.toList.splitOn '.').map String.ofList

/-- A path is its names with points between them. -/
theorem intercalate_pathNames (path : String) : ".".intercalate (pathNames path) = path := by
  have htexts : (pathNames path).map String.toList = path.toList.splitOn '.' := by
    simp [pathNames, Function.comp_def]
  have hpoint : ".".toList = ['.'] := by decide
  rw [← String.toList_inj, String.toList_intercalate, htexts, hpoint, List.intercalate_splitOn]

/-- Names with points between them are the names of their path. -/
theorem pathNames_intercalate {names : List String} (hne : names ≠ [])
    (h : ∀ n ∈ names, IsName n) : pathNames (".".intercalate names) = names := by
  have hpoint : ".".toList = ['.'] := by decide
  have hnames : ∀ cs ∈ names.map String.toList, '.' ∉ cs := by
    intro cs hcs hmem
    obtain ⟨n, hn, rfl⟩ := List.mem_map.1 hcs
    have hpart := Text.isIdentPart_of_isIdentifier (isName_iff.1 (h n hn)).1 '.' hmem
    revert hpart
    decide
  rw [pathNames, String.toList_intercalate, hpoint, List.splitOn_intercalate '.' hnames (by simpa)]
  simp [Function.comp_def]

/-- Whether the expression is a spread argument. -/
def isSpread : Expr → Bool
  | .spread _ => true
  | _ => false

end Expr

/-- Whether the parser makes composite literals of such a type. -/
def Shape.isComposite : Shape → Bool
  | .pointer _ | .function _ | .channel _ _ => false
  | _ => true

namespace Expr

/-- The condition on a part itself. -/
def IsFormed : Expr → Prop
  | .ident path => ∀ n ∈ pathNames path, IsName n
  | .literal t => IsLiteral t
  | .composite s => s.WellFormed ∧ s.isComposite = true
  | .unary _ e => e.isSpread = false
  | .call f _ => f.isSpread = false ∧ f.endsOpen = false
  | .spread e => e.isSpread = false

/-- **The expression is made of names, literals and types as the parser makes them**, and only an
argument of a call is spread. -/
def WellFormed (e : Expr) : Prop := ∀ x ∈ e.parts, x.IsFormed

/-- What is asked of each part holds of fewer parts. -/
theorem WellFormed.of_subset {e x : Expr} (h : e.WellFormed) (hx : x.parts ⊆ e.parts) :
    x.WellFormed := fun y hy ↦ h y (hx hy)

theorem wellFormed_unary {op : UnaryOp} {e : Expr} :
    (unary op e).WellFormed ↔ e.isSpread = false ∧ e.WellFormed := List.forall_mem_cons

theorem wellFormed_spread {e : Expr} :
    (spread e).WellFormed ↔ e.isSpread = false ∧ e.WellFormed := List.forall_mem_cons

/-- A call is well-formed if all that it consists of is, and what is called does not end in an open
literal. -/
theorem wellFormed_call {f : Expr} {args : List Expr} (hplain : f.isSpread = false)
    (hclosed : f.endsOpen = false) (hf : f.WellFormed) (hargs : ∀ a ∈ args, a.WellFormed) :
    (call f args).WellFormed := by
  refine List.forall_mem_cons.2 ⟨⟨hplain, hclosed⟩, List.forall_mem_append.2 ⟨hf, fun x hx ↦ ?_⟩⟩
  obtain ⟨a, ha, hmem⟩ := mem_partsOfArgs.1 hx
  exact hargs a ha x hmem

end Expr

theorem Shape.isComposite_ofIdent (name : String) : (ofIdent name).isComposite = true := by
  unfold ofIdent
  split
  · rfl
  · split <;> rfl

theorem Shape.isComposite_ofQualified (qualifier name : String) :
    (ofQualified qualifier name).isComposite = true := by
  unfold ofQualified
  split <;> rfl

namespace Parser

/-! ### Literals of the lexer -/

/-- The token ends a line. -/
def EndsLine (k : Kind) : Prop := k = .newline ∨ k = .eof

/-- The end of the source is no literal. -/
theorem ne_eof_of_isLiteral {k : Kind} (h : k.isLiteral = true) : k ≠ .eof := by
  rintro rfl
  cases h

/-- A literal that the lexer finds is read in front of what follows it. -/
theorem exists_readsAt_of_scanned {t : Token} {ts : List Token} (h : Scanned (t :: ts))
    (ht : t.kind ≠ .eof) :
    ∃ offset line rest, t.kind.ReadsAt rest ∧ scanFrom offset line rest = some ts := by
  obtain hnil | ⟨offset, line, cs, hscan⟩ := h
  · cases hnil
  · obtain ⟨-, rest, line', -, -, hreads, -, hrest⟩ := exists_of_scanFrom_cons hscan ht
    exact ⟨_, line', rest, hreads, hrest⟩

theorem isLiteral_of_scanned {t : Token} {ts : List Token} (h : Scanned (t :: ts))
    (ht : t.kind.isLiteral = true) : IsLiteral t.kind.text := by
  obtain ⟨-, -, rest, hreads, -⟩ := exists_readsAt_of_scanned h (ne_eof_of_isLiteral ht)
  exact ⟨rest, by rwa [hreads.literalKind_text ht]⟩

/-- **A literal without its closing quote is the last token of its line.** -/
theorem endsLine_of_isUnclosed {t : Token} {ts : List Token} (h : Scanned (t :: ts))
    (ht : t.kind.isLiteral = true) (hopen : isUnclosed t.kind.text = true) :
    EndsLine (first ts).kind := by
  obtain ⟨offset, line, rest, hreads, hscan⟩ :=
    exists_readsAt_of_scanned h (ne_eof_of_isLiteral ht)
  rcases hreads.rest_of_isUnclosed ht hopen with rfl | hbreak
  · rw [scanFrom_eq, gap] at hscan
    obtain rfl := Option.some.inj hscan
    exact .inr rfl
  · obtain ⟨r, rfl⟩ := List.head?_eq_some_iff.1 hbreak
    have hnewline := scanFrom_token (readsBefore_newline _ r rfl) offset line
    have htext : Kind.newline.text.toList ++ r = '\n' :: r := by simp [Kind.text]
    rw [htext, hscan] at hnewline
    obtain ⟨ts', -, rfl⟩ := Option.map_eq_some_iff.1 hnewline.symm
    exact .inl rfl

/-! ### Rules -/

section Rules

variable {I : List Token → Prop} [KeptBySuffixes I] {inner : Parser Expr}

/-- The names of a path are names of the source. -/
theorem ensuresOn_selectors {N : String → Prop} (hnames : NamesOn I N) :
    EnsuresOn I selectors fun names ↦ ∀ n ∈ names, N n := by
  refine ensures_rounds ?_
  refine ensures_kind.bind fun _ _ ↦ (ensuresOn_secondKind? hnames).bind fun k hk ↦ ?_
  split
  next name =>
    exact ensures_skip.bind fun _ _ ↦ ensures_skip.bind fun _ _ ↦ ensures_pure (hk name rfl)
  next => exact ensures_pure trivial

/-- An argument is an expression, spread or not. -/
theorem ensuresOn_argument {X Y : Expr → Prop} (hinner : EnsuresOn I inner X)
    (hspread : ∀ e, X e → Y (.spread e)) (hplain : ∀ e, X e → Y e) :
    EnsuresOn I (argument inner) Y := by
  refine hinner.bind fun e he ↦ (ensures_accept _).bind fun _ _ ↦
    ensures_ite (fun _ ↦ ?_) fun _ ↦ ?_
  · exact ensures_pure (hspread e he)
  · exact ensures_pure (hplain e he)

theorem ensuresOn_argumentLists {Y : Expr → Prop} (h : EnsuresOn I (argument inner) Y) :
    EnsuresOn I (argumentLists inner) fun lists ↦ ∀ args ∈ lists, ∀ a ∈ args, Y a := by
  refine ensures_rounds ((ensures_accept _).bind fun _ _ ↦ ensures_ite (fun _ ↦ ?_) fun _ ↦ ?_)
  · exact (ensures_commaList h).bind fun _ hargs ↦ ensures_pure hargs
  · exact ensures_pure trivial

end Rules

/-! ### Expressions -/

/-- What a parser for expressions makes, together with the tokens that it leaves. -/
structure Made (e : Expr) (rest : List Token) : Prop where
  /-- The expression is well-formed. -/
  wellFormed : e.WellFormed
  /-- It is not spread. -/
  plain : e.isSpread = false
  /-- If it ends in a literal without its closing quote, the line ends there. -/
  closed : e.endsOpen = true → EndsLine (first rest).kind

/-- The parser makes such expressions, where the tokens come from the lexer. -/
def Makes (p : Parser Expr) : Prop :=
  ∀ ts, Scanned ts → ∀ e rest, p.run ts = .ok (e, rest) → Made e rest ∧ Scanned rest

/-- What is left of `Makes` if the next token does not matter. -/
theorem Makes.ensures {p : Parser Expr} (h : Makes p) :
    Ensures p fun e ↦ e.isSpread = false ∧ e.WellFormed := by
  intro ts hts e rest hrun
  obtain ⟨hmade, hrest⟩ := h ts hts e rest hrun
  exact ⟨⟨hmade.plain, hmade.wellFormed⟩, hrest⟩

/-- What is well-formed and ends in no literal at all. -/
structure Settled (e : Expr) : Prop where
  /-- The expression is well-formed. -/
  wellFormed : e.WellFormed
  /-- It is not spread. -/
  plain : e.isSpread = false
  /-- It does not end in a literal without its closing quote. -/
  closed : e.endsOpen = false

theorem Settled.made {e : Expr} (h : Settled e) (rest : List Token) : Made e rest := by
  refine ⟨h.wellFormed, h.plain, fun hopen ↦ ?_⟩
  rw [h.closed] at hopen
  cases hopen

theorem settled_composite {s : Shape} (h : s.WellFormed) (hs : s.isComposite = true) :
    Settled (.composite s) :=
  ⟨List.forall_mem_singleton.2 ⟨h, hs⟩, rfl, rfl⟩

/-- A name starts a path or the type of a composite literal. -/
theorem ensures_pathOrComposite {name : String} (hname : IsName name) (span : Span) :
    Ensures (pathOrComposite name span) Settled := by
  refine (ensuresOn_selectors namesOn_scanned).bind fun names hnames ↦
    (ensures_accept _).bind fun _ _ ↦ ensures_ite (fun _ ↦ ?_) fun _ ↦ ?_
  · refine (ensures_expect _).bind fun _ _ ↦ ?_
    split
    next n heq =>
      obtain ⟨rfl, -⟩ := List.cons.inj heq
      exact ensures_pure
        (settled_composite (Shape.wellFormed_ofIdent hname) (Shape.isComposite_ofIdent _))
    next q n heq =>
      obtain ⟨rfl, rfl⟩ := List.cons.inj heq
      have hqualified := Shape.wellFormed_ofQualified hname (hnames n (by simp))
      exact ensures_pure (settled_composite hqualified (Shape.isComposite_ofQualified ..))
    next => exact ensures_throw _
  · have hpath : ∀ n ∈ name :: names, IsName n := List.forall_mem_cons.2 ⟨hname, hnames⟩
    refine ensures_pure ⟨List.forall_mem_singleton.2 ?_, rfl, rfl⟩
    rw [Expr.IsFormed, Expr.pathNames_intercalate (by simp) hpath]
    exact hpath

/-- A literal is followed by the end of the line if it has no closing quote. -/
theorem makes_literal {text : String} {ts rest : List Token} {e : Expr}
    (hts : Scanned ts) (hk : (first ts).kind.isLiteral = true) (htext : (first ts).kind.text = text)
    (hrun : (do skip; return Expr.literal text : Parser Expr).run ts = .ok (e, rest)) :
    Made e rest ∧ Scanned rest := by
  cases ts with
  | nil => cases hk
  | cons t ts =>
    obtain ⟨rfl, rfl⟩ := Prod.mk.inj (Except.ok.inj hrun)
    obtain rfl : t.kind.text = text := htext
    refine ⟨⟨List.forall_mem_singleton.2 (isLiteral_of_scanned hts hk), rfl, fun hopen ↦ ?_⟩,
      hts.tail⟩
    exact endsLine_of_isUnclosed hts hk hopen

/-- An expression in parentheses does not end the line. -/
theorem settled_parenthesized {inner : Parser Expr} (h : Makes inner) :
    Ensures (do
      skip
      let e ← inner
      expect (.closing .paren)
      return e) Settled := by
  intro ts hts e rest hrun
  obtain ⟨_, ts₁, hskip, hrun⟩ := exists_run_of_bind hrun
  obtain ⟨e', ts₂, hinner, hrun⟩ := exists_run_of_bind hrun
  obtain ⟨_, ts₃, hexpect, hrun⟩ := exists_run_of_bind hrun
  obtain ⟨rfl, rfl⟩ := Prod.mk.inj (Except.ok.inj hrun)
  obtain ⟨-, hts₁⟩ := ensures_skip ts hts _ _ hskip
  obtain ⟨hmade, hts₂⟩ := h ts₁ hts₁ _ _ hinner
  obtain ⟨t, rfl, ht⟩ := exists_cons_of_expect (by simp) hexpect
  refine ⟨⟨hmade.wellFormed, hmade.plain, ?_⟩, hts₂.tail⟩
  rw [← Bool.not_eq_true]
  intro hopen
  rcases hmade.closed hopen with hk | hk <;> simp [ht] at hk

/-- What starts like a slice, a map or a struct is one. -/
theorem isComposite_of_run_shape {ts rest : List Token} {s : Shape}
    (hk : (first ts).kind ∈ [.opening .square, .keyword .map, .keyword .struct])
    (h : shape.run ts = .ok (s, rest)) : s.isComposite = true := by
  have hrun : (shapeWithin (ts.length + 1)).run ts = .ok (s, rest) := h
  rw [shapeWithin, StateT.run_bind, run_peek, ok_bind] at hrun
  simp only [List.mem_cons, List.not_mem_nil, or_false] at hk
  rcases hk with hk | hk | hk
  · rw [hk] at hrun
    obtain ⟨_, _, -, hrun⟩ := exists_run_of_bind hrun
    obtain ⟨b, _, -, hrun⟩ := exists_run_of_bind hrun
    cases b with
    | false => cases hrun
    | true =>
      obtain ⟨_, _, -, hrun⟩ := exists_run_of_bind hrun
      obtain ⟨rfl, -⟩ := Prod.mk.inj (Except.ok.inj hrun)
      rfl
  · rw [hk] at hrun
    obtain ⟨_, _, -, hrun⟩ := exists_run_of_bind hrun
    obtain ⟨_, _, -, hrun⟩ := exists_run_of_bind hrun
    obtain ⟨_, _, -, hrun⟩ := exists_run_of_bind hrun
    obtain ⟨_, _, -, hrun⟩ := exists_run_of_bind hrun
    obtain ⟨_, _, -, hrun⟩ := exists_run_of_bind hrun
    obtain ⟨rfl, -⟩ := Prod.mk.inj (Except.ok.inj hrun)
    rfl
  · rw [hk] at hrun
    obtain ⟨_, _, -, hrun⟩ := exists_run_of_bind hrun
    obtain ⟨_, _, -, hrun⟩ := exists_run_of_bind hrun
    obtain ⟨rfl, -⟩ := Prod.mk.inj (Except.ok.inj hrun)
    rfl

/-- A composite literal after its type. -/
def compositeOf (s : Shape) : Parser Expr := do
  expect (.opening .brace)
  expect (.closing .brace)
  return .composite s

/-- A type that is followed by a pair of braces. -/
theorem settled_of_run_composite {ts rest : List Token} {e : Expr} (hts : Scanned ts)
    (hk : (first ts).kind ∈ [.opening .square, .keyword .map, .keyword .struct])
    (hrun : (shape >>= compositeOf).run ts = .ok (e, rest)) : Settled e ∧ Scanned rest := by
  obtain ⟨s, ts₁, hshape, hrun⟩ := exists_run_of_bind hrun
  obtain ⟨hs, hts₁⟩ := ensures_shape ts hts _ _ hshape
  have hensures : Ensures (compositeOf s) Settled :=
    (ensures_expect _).bind fun _ _ ↦ (ensures_expect _).bind fun _ _ ↦
      ensures_pure (settled_composite hs (isComposite_of_run_shape hk hshape))
  exact hensures ts₁ hts₁ _ _ hrun

/-- An operand is as it should be if the expressions inside it are. -/
theorem makes_primary {inner : Parser Expr} (h : Makes inner) : Makes (primary inner) := by
  intro ts hts e rest hrun
  have hsettled : Settled e ∧ Scanned rest → Made e rest ∧ Scanned rest := fun hs ↦
    ⟨hs.1.made rest, hs.2⟩
  rw [primary, StateT.run_bind, run_peek, ok_bind] at hrun
  dsimp only at hrun
  split at hrun
  next text hk => exact makes_literal hts (by rw [hk]; rfl) (by rw [hk]; rfl) hrun
  next text hk => exact makes_literal hts (by rw [hk]; rfl) (by rw [hk]; rfl) hrun
  next text hk => exact makes_literal hts (by rw [hk]; rfl) (by rw [hk]; rfl) hrun
  next text hk => exact makes_literal hts (by rw [hk]; rfl) (by rw [hk]; rfl) hrun
  next hk => exact hsettled (settled_of_run_composite hts (by simp [hk]) hrun)
  next hk => exact hsettled (settled_of_run_composite hts (by simp [hk]) hrun)
  next hk => exact hsettled (settled_of_run_composite hts (by simp [hk]) hrun)
  next name hk =>
    have hname := (ensuresOn_peek namesOn_scanned ts hts _ _ (run_peek ts)).1 name hk
    have hensures := ensures_skip.bind fun _ _ ↦ ensures_pathOrComposite hname (first ts).span
    exact hsettled (hensures ts hts e rest hrun)
  next hk => exact hsettled (settled_parenthesized h ts hts e rest hrun)
  next => cases hrun

theorem ensures_argument {inner : Parser Expr} (h : Makes inner) :
    Ensures (argument inner) Expr.WellFormed :=
  ensuresOn_argument h.ensures (fun _ he ↦ Expr.wellFormed_spread.2 he) fun _ he ↦ he.2

/-- One round of the argument lists. -/
def callRound (inner : Parser Expr) : Parser (Round (List Expr)) := do
  if ← accept (.opening .paren) then return .more (← commaList (argument inner))
  else return .stop

theorem argumentLists_eq (inner : Parser Expr) : argumentLists inner = rounds (callRound inner) :=
  rfl

theorem run_callRound_stop {inner : Parser Expr} {ts : List Token}
    (h : (first ts).kind ≠ .opening .paren) : (callRound inner).run ts = .ok (.stop, ts) := by
  simp [callRound, run_accept, h]

/-- Without an opening parenthesis there is no call. -/
theorem run_argumentLists_of_ne {inner : Parser Expr} {ts : List Token}
    (h : (first ts).kind ≠ .opening .paren) : (argumentLists inner).run ts = .ok ([], ts) := by
  rw [argumentLists_eq, run_rounds]
  exact run_roundsWithin_stop (run_callRound_stop h) _

/-- Calls of an expression that does not end in a literal without its closing quote. -/
theorem settled_foldl_call {lists : List (List Expr)}
    (hlists : ∀ args ∈ lists, ∀ a ∈ args, a.WellFormed) {e : Expr} (he : Settled e) :
    Settled (lists.foldl .call e) := by
  induction lists generalizing e with
  | nil => exact he
  | cons args lists ih =>
    obtain ⟨hargs, hlists⟩ := List.forall_mem_cons.1 hlists
    exact ih hlists ⟨Expr.wellFormed_call he.plain he.closed he.wellFormed hargs, rfl, rfl⟩

/-- **The parser makes well-formed expressions.** -/
theorem makes_exprWithin (budget : Nat) : Makes (exprWithin budget) := by
  induction budget with
  | zero =>
    intro ts _ e rest hrun
    cases hrun
  | succ budget ih =>
    intro ts hts e rest hrun
    rw [exprWithin, StateT.run_bind, run_kind, ok_bind] at hrun
    split at hrun
    next op _ =>
      obtain ⟨_, ts₁, hskip, hrun⟩ := exists_run_of_bind hrun
      obtain ⟨e', ts₂, hinner, hrun⟩ := exists_run_of_bind hrun
      obtain ⟨rfl, rfl⟩ := Prod.mk.inj (Except.ok.inj hrun)
      obtain ⟨-, hts₁⟩ := ensures_skip ts hts _ _ hskip
      obtain ⟨hmade, hts₂⟩ := ih ts₁ hts₁ _ _ hinner
      exact ⟨⟨Expr.wellFormed_unary.2 ⟨hmade.plain, hmade.wellFormed⟩, rfl, hmade.closed⟩, hts₂⟩
    next =>
      obtain ⟨e', ts₁, hprimary, hrun⟩ := exists_run_of_bind hrun
      obtain ⟨lists, ts₂, hlists, hrun⟩ := exists_run_of_bind hrun
      obtain ⟨rfl, rfl⟩ := Prod.mk.inj (Except.ok.inj hrun)
      obtain ⟨hmade, hts₁⟩ := makes_primary ih ts hts _ _ hprimary
      by_cases hparen : (first ts₁).kind = .opening .paren
      · -- a call follows, so the line does not end here
        have hclosed : e'.endsOpen = false := by
          rw [← Bool.not_eq_true]
          intro hopen
          rcases hmade.closed hopen with hk | hk <;> simp [hparen] at hk
        obtain ⟨hargs, hts₂⟩ := ensuresOn_argumentLists (ensures_argument ih) ts₁ hts₁ _ _ hlists
        exact ⟨(settled_foldl_call hargs ⟨hmade.wellFormed, hmade.plain, hclosed⟩).made _, hts₂⟩
      · rw [run_argumentLists_of_ne hparen] at hlists
        obtain ⟨rfl, rfl⟩ := Prod.mk.inj (Except.ok.inj hlists)
        exact ⟨hmade, hts₁⟩

/-- The parser for expressions starts with the number of tokens that are left as its budget. -/
theorem run_expr (ts : List Token) : expr.run ts = (exprWithin (ts.length + 1)).run ts := by
  rw [expr, StateT.run_bind, StateT.run_get]
  exact ok_bind ..

/-- The expressions that are made with the budget that the parser starts with. -/
theorem makes_expr : Makes expr := by
  intro ts hts e rest hrun
  rw [run_expr] at hrun
  exact makes_exprWithin _ ts hts e rest hrun

end Parser

end GoDecorator
