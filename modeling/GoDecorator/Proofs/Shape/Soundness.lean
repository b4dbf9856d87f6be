import GoDecorator.Proofs.Parser.Guarantees
import GoDecorator.Proofs.Shape.Grouping

/-!
# Types that the parser makes

**Every shape that the parser makes is well-formed**, whatever the tokens (`ensures_shape`). The
names in it are identifiers, a name that stands for a type of another kind is not kept as a name,
and the parameters of a function type are all named or all unnamed.

The last two are properties that no single step of the parser looks after. Names become shapes
through `Shape.ofIdent` and `Shape.ofQualified`, which keep a name only where it stands for no type
of its own kind; and `resolveParams` decides for a list as a whole whether its entries are names or
types.

## Rules that leave the property open

What the parsers do is said first, by one rule for each of them that does not fix what is proved
(`ensuresOn_paramEntry`, `ensuresOn_paramList`, `ensuresOn_signatureOf`, `ensuresOn_shape`). For a
property of all parts of a type, `TypeRules` collects what is needed: it has to hold of names and of
function types, and of the plain parts without further assumptions. The induction on the budget is
done once, in `ensuresOn_shapeWithin`.

Well-formedness is one use of these rules, in the last section. The other one follows the function
types in a file back to the entries that they were written as.
-/

namespace GoDecorator

open Token (IsName Scanned)

/-- Whether the shape is neither a name nor a function type. -/
def Shape.isPlain : Shape → Bool
  | .named _ _ | .function _ => false
  | _ => true

/-! ### Parameter lists -/

/-- The parameters are all named or all unnamed, their names are identifiers and their types are
well-formed. -/
structure ParamsWellFormed (ps : List Param) : Prop where
  /-- All of them have names or none has. -/
  uniform : IsUniform ps
  /-- The names are identifiers. -/
  names : ∀ p ∈ ps, ∀ n ∈ p.name, IsName n
  /-- The types are well-formed. -/
  shapes : ∀ p ∈ ps, p.shape.WellFormed

/-- The parameters and the results are well-formed. -/
def SignatureOf.WellFormed (sig : Signature) : Prop :=
  ParamsWellFormed sig.params ∧ ParamsWellFormed sig.results

/-- A function type is well-formed if its signature is. -/
theorem SignatureOf.WellFormed.function {sig : Signature} (h : sig.WellFormed) :
    (Shape.function sig).WellFormed := by
  obtain ⟨ps, rs⟩ := sig
  exact Shape.everywhere_function.2 ⟨⟨⟨h.1.uniform, h.2.uniform,
    List.forall_mem_append.2 ⟨h.1.names, h.2.names⟩⟩, trivial⟩, h.1.shapes, h.2.shapes⟩

/-- The signature of a well-formed function type is well-formed. -/
theorem Shape.WellFormed.signature {sig : Signature} (h : (Shape.function sig).WellFormed) :
    sig.WellFormed := by
  obtain ⟨ps, rs⟩ := sig
  obtain ⟨⟨⟨hps, hrs, hnames⟩, -⟩, hps', hrs'⟩ := Shape.everywhere_function.1 h
  exact ⟨⟨hps, fun p hp ↦ hnames p (List.mem_append_left _ hp), hps'⟩,
    ⟨hrs, fun r hr ↦ hnames r (List.mem_append_right _ hr), hrs'⟩⟩

/-- The names of an entry are identifiers and its type is well-formed. -/
def ParamEntry.WellFormed : ParamEntry → Prop
  | lone name _ => IsName name
  | bare shape _ => shape.WellFormed
  | named name shape _ => IsName name ∧ shape.WellFormed

theorem ParamEntry.WellFormed.isName {e : ParamEntry} (h : e.WellFormed) {n : String}
    (hn : e.name? = some n) : IsName n := by
  match e, h, hn with
  | .lone _ _, h, rfl => exact h
  | .named _ _ _, h, rfl => exact h.1

theorem ParamEntry.WellFormed.shape {e : ParamEntry} (h : e.WellFormed) {s : Shape}
    (hs : e.shape? = some s) : s.WellFormed := by
  match e, h, hs with
  | .bare _ _, h, rfl => exact h
  | .named _ _ _, h, rfl => exact h.2

/-- **Well-formed entries are resolved into well-formed parameters.** Each name and each type is
that of an entry. -/
theorem resolveParams_wellFormed {es : List ParamEntry} (h : ∀ e ∈ es, e.WellFormed)
    {ps : List Param} (hps : resolveParams es = .ok ps) : ParamsWellFormed ps := by
  refine ⟨isUniform_of_resolveParams hps, fun p hp n hn ↦ ?_, fun p hp ↦ ?_⟩
  · obtain ⟨e, he, hname⟩ := (mem_of_resolveParams hps hp).1 n hn
    exact (h e he).isName hname
  · obtain ⟨e, he, hs | ⟨n, hn, hs⟩⟩ := (mem_of_resolveParams hps hp).2
    · exact (h e he).shape hs
    · exact hs ▸ Shape.wellFormed_ofIdent ((h e he).isName hn)

theorem paramsWellFormed_nil : ParamsWellFormed [] := ⟨.inl (by simp), by simp, by simp⟩

/-- A result without parentheses. -/
theorem paramsWellFormed_unnamed {s : Shape} (h : s.WellFormed) :
    ParamsWellFormed [.unnamed s] :=
  @resolveParams_wellFormed [.bare s false] (List.forall_mem_singleton.2 h) _ rfl

namespace Parser

/-! ### Rules -/

section Rules

variable {I : List Token → Prop} [KeptBySuffixes I] {N : String → Prop} {Q : Shape → Prop}
  {inner : Parser Shape}

/-- An entry is one of three kinds, made of names of the source and of types that were read. -/
theorem ensuresOn_paramEntry {E : ParamEntry → Prop} (hnames : NamesOn I N)
    (hinner : EnsuresOn I inner Q) (hlone : ∀ n span, N n → E (.lone n span))
    (hbare : ∀ s v, Q s → E (.bare s v)) (hnamed : ∀ n s v, N n → Q s → E (.named n s v)) :
    EnsuresOn I (paramEntry inner) E := by
  refine (ensures_accept _).bind fun variadic _ ↦ (ensuresOn_peek hnames).bind fun t ht ↦
    ensures_secondKind?.bind fun _ _ ↦ ?_
  split
  · exact hinner.bind fun s hs ↦ ensures_pure (hbare s _ hs)
  · rename_i name hname _
    have hn := ht name hname
    refine ensures_skip.bind fun _ _ ↦ ensures_kind.bind fun _ _ ↦ ?_
    split
    · exact ensures_pure (hlone name _ hn)
    · exact ensures_pure (hlone name _ hn)
    · exact ensures_pure (hlone name _ hn)
    · exact (ensures_accept _).bind fun _ _ ↦ hinner.bind fun s hs ↦
        ensures_pure (hnamed name s _ hn hs)
  · exact hinner.bind fun s hs ↦ ensures_pure (hbare s _ hs)

/-- A list that was read was resolved, from entries that were read. -/
theorem ensuresOn_paramList {E : ParamEntry → Prop} {P : List Param → Prop}
    (hentry : EnsuresOn I (paramEntry inner) E)
    (hresolve : ∀ es ps, (∀ e ∈ es, E e) → resolveParams es = .ok ps → P ps) :
    EnsuresOn I (paramList inner) P :=
  (ensures_commaList hentry).bind fun es hes ↦ ensures_lift fun ps hps ↦ hresolve es ps hes hps

/-- Results are missing, or one type without parentheses, or a list like that of the parameters. -/
theorem ensuresOn_signatureOf {P : List Param → Prop} (hlist : EnsuresOn I (paramList inner) P)
    (hinner : EnsuresOn I inner Q) (hnone : P []) (hone : ∀ s, Q s → P [.unnamed s]) :
    EnsuresOn I (signatureOf inner) fun sig ↦ P sig.params ∧ P sig.results := by
  refine (ensures_expect _).bind fun _ _ ↦ hlist.bind fun ps hps ↦
    (ensures_accept _).bind fun _ _ ↦ ensures_ite (fun _ ↦ ?_) fun _ ↦ ?_
  · exact hlist.bind fun rs hrs ↦ ensures_pure ⟨hps, hrs⟩
  · refine ensures_kind.bind fun _ _ ↦ ensures_ite (fun _ ↦ ?_) fun _ ↦ ?_
    · exact hinner.bind fun s hs ↦ ensures_pure ⟨hps, hone s hs⟩
    · exact ensures_pure ⟨hps, hnone⟩

theorem ensures_emptyBraces (what : Unsupported) (span : Span) :
    EnsuresOn I (emptyBraces what span) fun _ ↦ True := by
  refine (ensures_expect _).bind fun _ _ ↦ ensures_skipNewlines.bind fun _ _ ↦
    (ensures_accept _).bind fun _ _ ↦ ensures_ite (fun _ ↦ ?_) fun _ ↦ ?_
  · exact ensures_pure trivial
  · exact ensures_throw _

/-- What is needed of a property of the parts of types for it to hold of all types that are read:
it holds of names and of function types, and there is nothing to show for the other parts. -/
structure TypeRules (I : List Token → Prop) (N : String → Prop) (P : Shape → Prop) : Prop where
  /-- The identifiers among the tokens. -/
  names : NamesOn I N
  /-- Parts that are neither names nor function types. -/
  plain : ∀ s, s.isPlain = true → P s
  /-- A name. -/
  ident : ∀ n, N n → (Shape.ofIdent n).Everywhere P
  /-- A name with the package it is qualified by. -/
  qualified : ∀ q n, N q → N n → (Shape.ofQualified q n).Everywhere P
  /-- A function type, if the property holds of the types inside it. -/
  function : ∀ budget, EnsuresOn I (shapeWithin budget) (Shape.Everywhere P) →
    EnsuresOn I (signatureOf (shapeWithin budget)) fun sig ↦ (Shape.function sig).Everywhere P

variable {P : Shape → Prop}

/-- A name is followed by a dot and another name, or stands for itself. -/
theorem ensuresOn_namedShape (h : TypeRules I N P) {name : String} (hname : N name)
    (span : Span) : EnsuresOn I (namedShape name span) (Shape.Everywhere P) := by
  have hrest : ∀ s : Shape, s.Everywhere P → EnsuresOn I (do
      if ← isNext (.opening .square) then throw (.unsupportedType .genericInstantiation span)
      return s) (Shape.Everywhere P) := by
    refine fun s hs ↦ (ensures_isNext _).bind fun _ _ ↦ ensures_ite (fun _ ↦ ?_) fun _ ↦ ?_
    · exact ensures_throw_bind _ _
    · exact ensures_pure hs
  refine (ensures_accept _).bind fun _ _ ↦ ensures_ite (fun _ ↦ ?_) fun _ ↦ ?_
  · exact ((ensuresOn_ident h.names).map fun n hn ↦ h.qualified name n hname hn).bind hrest
  · exact (ensures_pure (h.ident name hname)).bind hrest

/-- The induction behind `ensuresOn_shape` is on the budget, which falls with each step into a
type. -/
theorem ensuresOn_shapeWithin (h : TypeRules I N P) (budget : Nat) :
    EnsuresOn I (shapeWithin budget) (Shape.Everywhere P) := by
  induction budget with
  | zero => exact ensures_overBudget
  | succ budget ih =>
    refine (ensuresOn_peek h.names).bind fun t ht ↦ ?_
    split
    · -- a pointer
      refine ensures_skip.bind fun _ _ ↦ ih.bind fun s hs ↦ ensures_pure ?_
      exact Shape.everywhere_pointer.2 ⟨h.plain _ rfl, hs⟩
    · -- a slice
      refine ensures_skip.bind fun _ _ ↦ (ensures_accept _).bind fun _ _ ↦
        ensures_ite (fun _ ↦ ?_) fun _ ↦ ?_
      · refine ih.bind fun s hs ↦ ensures_pure ?_
        exact Shape.everywhere_slice.2 ⟨h.plain _ rfl, hs⟩
      · exact ensures_throw_bind _ _
    · -- a map
      refine ensures_skip.bind fun _ _ ↦ (ensures_expect _).bind fun _ _ ↦
        ih.bind fun k hk ↦ (ensures_expect _).bind fun _ _ ↦ ih.bind fun v hv ↦ ensures_pure ?_
      exact Shape.everywhere_map.2 ⟨h.plain _ rfl, hk, hv⟩
    · -- a channel
      refine ensures_skip.bind fun _ _ ↦ (ensures_accept _).bind fun _ _ ↦
        ih.bind fun s hs ↦ ensures_pure ?_
      exact Shape.everywhere_channel.2 ⟨h.plain _ rfl, hs⟩
    · -- a receive-only channel
      refine ensures_skip.bind fun _ _ ↦ (ensures_expect _).bind fun _ _ ↦
        ih.bind fun s hs ↦ ensures_pure ?_
      exact Shape.everywhere_channel.2 ⟨h.plain _ rfl, hs⟩
    · -- a function type
      exact ensures_skip.bind fun _ _ ↦ (h.function budget ih).bind fun sig hsig ↦
        ensures_pure hsig
    · -- the empty interface
      exact ensures_skip.bind fun _ _ ↦ (ensures_emptyBraces _ _).bind fun _ _ ↦
        ensures_pure (Shape.everywhere_any.2 (h.plain _ rfl))
    · -- the empty struct
      exact ensures_skip.bind fun _ _ ↦ (ensures_emptyBraces _ _).bind fun _ _ ↦
        ensures_pure (Shape.everywhere_emptyStruct.2 (h.plain _ rfl))
    · -- a type in parentheses
      exact ensures_skip.bind fun _ _ ↦ ensures_skipNewlines.bind fun _ _ ↦
        ih.bind fun s hs ↦ ensures_skipNewlines.bind fun _ _ ↦
          (ensures_expect _).bind fun _ _ ↦ ensures_pure hs
    · -- a name
      rename_i name hname
      exact ensures_skip.bind fun _ _ ↦ ensuresOn_namedShape h (ht name hname) _
    · exact ensures_throw _

/-- **What is kept by names and function types holds of all types that are read.** -/
theorem ensuresOn_shape (h : TypeRules I N P) : EnsuresOn I shape (Shape.Everywhere P) :=
  ensures_get.bind fun _ _ ↦ ensuresOn_shapeWithin h _

end Rules

/-! ### Types -/

/-- Entries are well-formed if the types in them are. -/
theorem ensures_paramEntry {inner : Parser Shape} (h : Ensures inner Shape.WellFormed) :
    Ensures (paramEntry inner) ParamEntry.WellFormed :=
  ensuresOn_paramEntry namesOn_scanned h (fun _ _ hn ↦ hn) (fun _ _ hs ↦ hs)
    fun _ _ _ hn hs ↦ ⟨hn, hs⟩

theorem ensures_paramList {inner : Parser Shape} (h : Ensures inner Shape.WellFormed) :
    Ensures (paramList inner) ParamsWellFormed :=
  ensuresOn_paramList (ensures_paramEntry h) fun _ _ hes hps ↦
    resolveParams_wellFormed hes hps

theorem ensures_signatureOf {inner : Parser Shape} (h : Ensures inner Shape.WellFormed) :
    Ensures (signatureOf inner) SignatureOf.WellFormed :=
  ensuresOn_signatureOf (ensures_paramList h) h paramsWellFormed_nil fun _ ↦
    paramsWellFormed_unnamed

/-- Well-formedness is a property of the parts of a type that the rules apply to. -/
theorem typeRules_wellFormed :
    TypeRules Scanned IsName fun t ↦ t.HasNames ∧ t.IsCanonical where
  names := namesOn_scanned
  plain s hs := by cases s <;> simp_all [Shape.isPlain, Shape.HasNames, Shape.IsCanonical]
  ident _ := Shape.wellFormed_ofIdent
  qualified _ _ := Shape.wellFormed_ofQualified
  function _ h := (ensures_signatureOf h).mono fun _ hsig ↦ hsig.function

/-- **The parser makes well-formed shapes.** -/
theorem ensures_shape : Ensures shape Shape.WellFormed := ensuresOn_shape typeRules_wellFormed

theorem ensures_signature : Ensures signature SignatureOf.WellFormed :=
  ensures_signatureOf ensures_shape

end Parser

end GoDecorator
