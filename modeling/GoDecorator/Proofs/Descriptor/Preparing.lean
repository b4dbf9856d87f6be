import GoDecorator.Pattern.Basic
import GoDecorator.Proofs.Decl.Functions
import GoDecorator.Proofs.Decl.Soundness
import GoDecorator.Proofs.Expr.Phrases

/-!
# Prepared methods

Before a method is written it is prepared: its types are qualified and every parameter gets a usable
name. **The signature of a prepared method is a draft** (`Method.drafted_prepare`): its types are
made of identifiers, its results have no names, and the names of its parameters are labels. They are
identifiers if no type has a name with a dotted capital (`Method.isName_prepare_of_isUndotted`).

The difference matters. A label may be the text `i` with a combining dot after it, which the lexer
takes for two tokens. A declaration with such a name is not read back, and so generating fails;
everything that is proved about generated declarations is proved for drafts, together with the
condition under which they can be written.

## What preparing keeps

Preparing a method changes neither the number of its parameters and results nor what a condition on
the input of a pattern asks about them, so the conditions carry over (`takesContext_prepare`,
`returnsError_prepare`). `ParamOf.Renamed` says what becomes of a single parameter: its type and its
dots stay, and its name is its own or was made from its type.

## What bodies say about a method

The bodies of generated methods are filled in with texts that come from the signature: the arguments
of a call, the call itself, zero values, names for results. Each of these is a phrase (`IsPhrase`),
which is what a template asks of a text that is filled in.
-/

namespace GoDecorator

open Token

/-! ### Qualifying types -/

namespace Shape

variable {package : String}

@[simp] theorem isContext_qualify (s : Shape) : (s.qualify package).isContext = s.isContext := by
  cases s with
  | named q n => cases q <;> rfl
  | _ => rfl

@[simp] theorem isError_qualify (s : Shape) : (s.qualify package).isError = s.isError := by
  cases s with
  | named q n => cases q <;> rfl
  | _ => rfl

/-- The name for a value does not depend on how its type is qualified. -/
theorem baseName_qualify (package : String) (s : Shape) :
    (s.qualify package).baseName = s.baseName := by
  induction s using Shape.induct with
  | pointer s ih => exact ih
  | named q n => cases q <;> rfl
  | slice s ih => exact congrArg pluralize ih
  | map k v _ ih => exact congrArg pluralize ih
  | _ => rfl

/-- The name for a variable is made before the type is qualified, or after: it is the same. -/
theorem variableName_qualify (package : String) (s : Shape) :
    (s.qualify package).variableName = s.variableName :=
  congrArg escapeReserved (s.baseName_qualify package)

/-- What holds of all parts before they are qualified holds of them afterwards, if qualifying a
single part preserves it. -/
theorem everywhere_qualify {P Q : Shape → Prop} (hPQ : ∀ t, P t → Q (t.qualify package))
    {s : Shape} (h : s.Everywhere P) : (s.qualify package).Everywhere Q := by
  induction s using Shape.induct with
  | primitive p => exact everywhere_primitive.2 (hPQ _ (everywhere_primitive.1 h))
  | pointer s ih =>
    have hs := everywhere_pointer.1 h
    exact everywhere_pointer.2 ⟨hPQ _ hs.1, ih hs.2⟩
  | named q n =>
    have hs := hPQ _ (everywhere_named.1 h)
    cases q <;> exact everywhere_named.2 hs
  | slice s ih =>
    have hs := everywhere_slice.1 h
    exact everywhere_slice.2 ⟨hPQ _ hs.1, ih hs.2⟩
  | map k v ihk ihv =>
    have hs := everywhere_map.1 h
    exact everywhere_map.2 ⟨hPQ _ hs.1, ihk hs.2.1, ihv hs.2.2⟩
  | function ps rs ihps ihrs =>
    have hs := everywhere_function.1 h
    have htop := hPQ _ hs.1
    rw [qualify, qualifyParams_eq_map, qualifyParams_eq_map] at htop ⊢
    refine everywhere_function.2 ⟨htop, fun p hp ↦ ?_, fun r hr ↦ ?_⟩
    · obtain ⟨p, hmem, rfl⟩ := List.mem_map.1 hp
      exact ihps p hmem (hs.2.1 p hmem)
    · obtain ⟨r, hmem, rfl⟩ := List.mem_map.1 hr
      exact ihrs r hmem (hs.2.2 r hmem)
  | context => exact everywhere_context.2 (hPQ _ (everywhere_context.1 h))
  | any => exact everywhere_any.2 (hPQ _ (everywhere_any.1 h))
  | channel d s ih =>
    have hs := everywhere_channel.1 h
    exact everywhere_channel.2 ⟨hPQ _ hs.1, ih hs.2⟩
  | emptyStruct => exact everywhere_emptyStruct.2 (hPQ _ (everywhere_emptyStruct.1 h))

/-- Qualified parameters have names where they had some before. -/
theorem isUniform_qualify {ps : List Param} (h : IsUniform ps) :
    IsUniform (ps.map fun p ↦ ({ p with shape := p.shape.qualify package } : Param)) := by
  refine h.imp (fun h p hp ↦ ?_) fun h p hp ↦ ?_
  all_goals
    obtain ⟨p, hmem, rfl⟩ := List.mem_map.1 hp
    exact h p hmem

/-- **The names in a qualified type are identifiers.** -/
theorem proper_qualify (hp : IsName package) {s : Shape} (h : s.Proper) :
    (s.qualify package).Proper := by
  refine everywhere_qualify (fun t ht ↦ ?_) h
  cases t with
  | named q n =>
    cases q with
    | none =>
      refine ⟨fun x hx ↦ ?_, ht.2⟩
      split at hx
      · obtain rfl := Option.some.inj hx
        exact hp
      · cases hx
    | some q => exact ht
  | function sig =>
    obtain ⟨ps, rs⟩ := sig
    obtain ⟨hps, hrs, hnames⟩ := ht
    rw [qualify, qualifyParams_eq_map, qualifyParams_eq_map]
    refine ⟨isUniform_qualify hps, isUniform_qualify hrs, fun p hp ↦ ?_⟩
    rw [← List.map_append] at hp
    obtain ⟨p, hmem, rfl⟩ := List.mem_map.1 hp
    exact hnames p hmem
  | _ => trivial

/-- The names of types stay as they are when a type is qualified. -/
theorem isUndotted_qualify {s : Shape} (h : s.IsUndotted) : (s.qualify package).IsUndotted := by
  refine everywhere_qualify (fun t ht ↦ ?_) h
  cases t with
  | named q n => cases q <;> exact ht
  | _ => trivial

end Shape

/-- Inside the function, a variadic parameter is a slice of what is written. -/
theorem ParamOf.proper_bodyShape {p : Param} (h : p.shape.Proper) : p.bodyShape.Proper := by
  unfold ParamOf.bodyShape
  split
  · exact Shape.everywhere_slice.2 ⟨trivial, h⟩
  · exact h

theorem ParamOf.isUndotted_bodyShape {p : Param} (h : p.shape.IsUndotted) :
    p.bodyShape.IsUndotted := by
  unfold ParamOf.bodyShape
  split
  · exact Shape.everywhere_slice.2 ⟨trivial, h⟩
  · exact h

/-- Qualifying the type of a parameter qualifies the type that it has inside the function. -/
theorem ParamOf.bodyShape_qualify (package : String) (p : Param) :
    ({ p with shape := p.shape.qualify package } : Param).bodyShape =
      p.bodyShape.qualify package := by
  show (if p.variadic then _ else _) = (if p.variadic then _ else _ : Shape).qualify package
  split <;> rfl

/-! ### Names of parameters -/

/-- What stands on the right has a partner on the left. -/
theorem exists_of_mem_right {α β : Type} {R : α → β → Prop} {xs : List α}
    {ys : List β} (h : List.Forall₂ R xs ys) {y : β} (hy : y ∈ ys) : ∃ x ∈ xs, R x y := by
  induction h with
  | nil => cases hy
  | cons hxy _ ih =>
    rcases List.mem_cons.1 hy with rfl | hy
    · exact ⟨_, List.mem_cons_self .., hxy⟩
    · obtain ⟨x, hx, hxy⟩ := ih hy
      exact ⟨x, List.mem_cons_of_mem _ hx, hxy⟩

/-- The second parameter is the first one with a usable name: its own, or a new one made from its
type. -/
structure ParamOf.Renamed (p q : Param) : Prop where
  /-- The type stays. -/
  shape : q.shape = p.shape
  /-- It is variadic or not as before. -/
  variadic : q.variadic = p.variadic
  /-- There is a name. -/
  name : ∃ n, q.name = some n ∧
    (p.name = some n ∨ ∃ names : Names, n = (names.allocateFor p.bodyShape).1)

namespace Method

/-- Of each parameter it is said whether it keeps its name, and only one that has a name does. -/
theorem forall₂_keepNames (names : Names) (ps : List Param) :
    List.Forall₂ (fun p kept ↦ kept = true → p.name ≠ none) ps (keepNames names ps).1 := by
  induction ps generalizing names with
  | nil => exact .nil
  | cons p ps ih =>
    refine .cons ?_ (ih _)
    intro hkept hname
    simp [hname] at hkept

/-- A parameter that keeps its name has one, and the others get a new one. -/
theorem forall₂_renameParams (names : Names) {ps : List Param} {kept : List Bool}
    (h : List.Forall₂ (fun p k ↦ k = true → p.name ≠ none) ps kept) :
    List.Forall₂ ParamOf.Renamed ps (renameParams names (ps.zip kept)).1 := by
  induction h generalizing names with
  | nil => exact .nil
  | @cons p k ps kept hk _ ih =>
    cases k with
    | true =>
      obtain ⟨n, hn⟩ := Option.ne_none_iff_exists'.1 (hk rfl)
      exact .cons ⟨rfl, rfl, n, hn, .inl hn⟩ (ih names)
    | false => exact .cons ⟨rfl, rfl, _, rfl, .inr ⟨names, rfl⟩⟩ (ih _)

/-- A method that gets names for its parameters has the same parameters otherwise. -/
theorem forall₂_withParamNames (m : Method) (names : Names) :
    List.Forall₂ ParamOf.Renamed m.params (m.withParamNames names).1.params :=
  forall₂_renameParams _ (forall₂_keepNames _ _)

/-- **Every parameter of a prepared method has a usable name.** -/
theorem forall₂_prepare (m : Method) (package : String) (reserved : List String) :
    List.Forall₂ ParamOf.Renamed (m.qualified package).params
      (m.prepare package reserved).1.params :=
  (m.qualified package).forall₂_withParamNames _

/-! ### What stays -/

section Stays

variable (m : Method) (package : String) (reserved : List String)

@[simp] theorem name_prepare : (m.prepare package reserved).1.name = m.name := rfl

theorem qualified_params : (m.qualified package).params =
    m.params.map fun p ↦ { p with shape := p.shape.qualify package } :=
  Shape.qualifyParams_eq_map package m.params

/-- The names of the results are dropped. -/
theorem qualified_results : (m.qualified package).results =
    m.results.map fun r ↦ ⟨none, r.shape.qualify package, r.variadic⟩ := by
  show (Shape.qualifyParams package m.results).map ParamOf.withoutName = _
  rw [Shape.qualifyParams_eq_map, List.map_map]
  rfl

@[simp] theorem results_prepare :
    (m.prepare package reserved).1.results = (m.qualified package).results := rfl

@[simp] theorem length_results_qualified :
    (m.qualified package).results.length = m.results.length := by
  rw [qualified_results, List.length_map]

@[simp] theorem length_params_prepare :
    (m.prepare package reserved).1.params.length = m.params.length := by
  rw [← (m.forall₂_prepare package reserved).length_eq, qualified_params, List.length_map]

@[simp] theorem returnsError_qualified : (m.qualified package).returnsError = m.returnsError := by
  unfold returnsError
  rw [qualified_results, List.getLast?_map]
  cases m.results.getLast? with
  | none => rfl
  | some r => exact r.shape.isError_qualify

@[simp] theorem returnsError_prepare :
    (m.prepare package reserved).1.returnsError = m.returnsError :=
  m.returnsError_qualified package

/-- The types of the parameters of a prepared method. -/
theorem map_bodyShape_prepare :
    (m.prepare package reserved).1.params.map ParamOf.bodyShape =
      m.params.map fun p ↦ p.bodyShape.qualify package := by
  have hbody : ∀ p q : Param, p.Renamed q → p.bodyShape = q.bodyShape := by
    intro p q hpq
    unfold ParamOf.bodyShape
    rw [hpq.variadic, hpq.shape]
  have hmap : List.Forall₂ (· = ·) ((m.qualified package).params.map ParamOf.bodyShape)
      ((m.prepare package reserved).1.params.map ParamOf.bodyShape) := by
    rw [List.forall₂_map_left_iff, List.forall₂_map_right_iff]
    exact (m.forall₂_prepare package reserved).imp hbody
  rw [List.forall₂_eq_eq_eq] at hmap
  rw [← hmap, qualified_params, List.map_map]
  exact List.map_congr_left fun p _ ↦ p.bodyShape_qualify package

@[simp] theorem takesContext_qualified : (m.qualified package).takesContext = m.takesContext := by
  unfold takesContext
  rw [qualified_params, List.head?_map]
  cases m.params.head? with
  | none => rfl
  | some p => exact p.shape.isContext_qualify

/-- A context stays the first parameter when it gets a name. -/
@[simp] theorem takesContext_withParamNames (names : Names) :
    (m.withParamNames names).1.takesContext = m.takesContext := by
  have hfirst : ∀ {ps qs : List Param}, List.Forall₂ ParamOf.Renamed ps qs →
      qs.head?.any (·.shape.isContext) = ps.head?.any (·.shape.isContext) := by
    intro ps qs h
    cases h with
    | nil => rfl
    | cons hpq _ => exact congrArg Shape.isContext hpq.shape
  exact hfirst (m.forall₂_withParamNames names)

@[simp] theorem takesContext_prepare :
    (m.prepare package reserved).1.takesContext = m.takesContext := by
  rw [prepare, takesContext_withParamNames, takesContext_qualified]

end Stays

/-! ### Drafts -/

/-- A method whose names are identifiers and whose types are well-formed. -/
def WellFormed (m : Method) : Prop := IsName m.name ∧ m.signature.WellFormed

variable {m : Method} {package : String}

/-- Qualified parameters are made of identifiers, and so are their names if they have any. -/
theorem proper_params_qualified (hm : m.WellFormed) (hp : IsName package) :
    ∀ p ∈ (m.qualified package).params, p.shape.Proper ∧ ∀ n ∈ p.name, IsName n := by
  rw [qualified_params]
  intro q hq
  obtain ⟨p, hmem, rfl⟩ := List.mem_map.1 hq
  exact ⟨Shape.proper_qualify hp (hm.2.1.shapes p hmem).proper, hm.2.1.names p hmem⟩

/-- Qualified results are made of identifiers. -/
theorem proper_results_qualified (hm : m.WellFormed) (hp : IsName package) :
    ∀ r ∈ (m.qualified package).results, r.shape.Proper ∧ r.name = none := by
  rw [qualified_results]
  intro q hq
  obtain ⟨r, hmem, rfl⟩ := List.mem_map.1 hq
  exact ⟨Shape.proper_qualify hp (hm.2.2.shapes r hmem).proper, rfl⟩

/-- **The signature of a prepared method is a draft.** -/
theorem drafted_prepare (hm : m.WellFormed) (hp : IsName package) (reserved : List String) :
    (m.prepare package reserved).1.signature.Drafted := by
  have hparams : ∀ q ∈ (m.prepare package reserved).1.params,
      q.shape.Proper ∧ ∃ n, q.name = some n ∧ IsLabel n := by
    intro q hq
    obtain ⟨p, hmem, hpq⟩ := exists_of_mem_right (m.forall₂_prepare package reserved) hq
    obtain ⟨hproper, hnames⟩ := proper_params_qualified hm hp p hmem
    obtain ⟨n, hn, hname⟩ := hpq.name
    refine ⟨hpq.shape ▸ hproper, n, hn, ?_⟩
    rcases hname with hname | ⟨names, rfl⟩
    · exact .inl (hnames n hname)
    · exact names.isLabel_allocate (Shape.isLabel_variableName (ParamOf.proper_bodyShape hproper))
  refine ⟨fun q hq ↦ (hparams q hq).2, fun r hr ↦ (proper_results_qualified hm hp r hr).2,
    fun q hq ↦ ?_⟩
  rcases List.mem_append.1 hq with hq | hq
  · exact (hparams q hq).1
  · exact (proper_results_qualified hm hp q hq).1

/-- A name for a context is an identifier, also where the context is variadic. -/
theorem isName_allocateFor_context (names : Names) {p : Param} (h : p.shape.isContext = true) :
    IsName (names.allocateFor p.bodyShape).1 := by
  have hshape : p.shape = .context := by
    cases hs : p.shape <;> simp_all [Shape.isContext]
  refine names.isName_allocate ?_
  unfold ParamOf.bodyShape
  rw [hshape]
  split <;> decide

/-- **The name of the context of a prepared method is an identifier**, since it does not come from
the name of a type. -/
theorem isName_contextName?_prepare (hm : m.WellFormed) (hp : IsName package)
    {reserved : List String} {ctx : String}
    (h : (m.prepare package reserved).1.contextName? = some ctx) : IsName ctx := by
  unfold contextName? at h
  split at h
  next htakes =>
    obtain ⟨q, hq, hctx⟩ := Option.bind_eq_some_iff.1 h
    obtain ⟨p, hmem, hpq⟩ := exists_of_mem_right (m.forall₂_prepare package reserved)
      (List.mem_of_mem_head? hq)
    have hcontext : q.shape.isContext = true := by
      rw [takesContext, hq] at htakes
      exact htakes
    obtain ⟨n, hn, hname⟩ := hpq.name
    obtain rfl : n = ctx := Option.some.inj (hn.symm.trans hctx)
    rcases hname with hname | ⟨names, rfl⟩
    · exact (proper_params_qualified hm hp p hmem).2 n hname
    · exact isName_allocateFor_context names (hpq.shape ▸ hcontext)
  next => cases h

/-- **Types without dotted capitals give parameters whose names are identifiers.** -/
theorem isName_prepare_of_isUndotted (hm : m.WellFormed) (hp : IsName package)
    (hu : ∀ p ∈ m.params, p.shape.IsUndotted) (reserved : List String) :
    ∀ q ∈ (m.prepare package reserved).1.params, ∀ n ∈ q.name, IsName n := by
  intro q hq n hn
  obtain ⟨p', hmem', hpq⟩ := exists_of_mem_right (m.forall₂_prepare package reserved) hq
  obtain ⟨hproper, hnames⟩ := proper_params_qualified hm hp p' hmem'
  rw [qualified_params] at hmem'
  obtain ⟨p, hmem, rfl⟩ := List.mem_map.1 hmem'
  obtain ⟨n', hn', hname⟩ := hpq.name
  obtain rfl : n' = n := Option.some.inj (hn'.symm.trans hn)
  rcases hname with hname | ⟨names, rfl⟩
  · exact hnames n' hname
  · have hundotted : (p.shape.qualify package).IsUndotted := Shape.isUndotted_qualify (hu p hmem)
    exact names.isName_allocate (Shape.isName_variableName (ParamOf.proper_bodyShape hproper)
      (ParamOf.isUndotted_bodyShape hundotted))

/-! ### What bodies say about a method -/

section Bodies

variable {m : Method}

/-- In a draft that can be written, every parameter has an identifier for a name. -/
theorem exists_isName (hs : m.signature.Drafted) (hw : m.signature.Writable) :
    ∀ p ∈ m.params, ∃ n, p.name = some n ∧ IsName n := by
  intro p hp
  obtain ⟨n, hn, -⟩ := hs.params p hp
  exact ⟨n, hn, hw.1 p hp n hn⟩

/-- A method that takes a context has a parameter. -/
theorem exists_params_of_takesContext (h : m.takesContext = true) :
    ∃ p ps, m.params = p :: ps ∧ p.shape.isContext = true := by
  unfold takesContext at h
  cases hparams : m.params with
  | nil => simp [hparams] at h
  | cons p ps => exact ⟨p, ps, rfl, by simpa [hparams] using h⟩

theorem mem_params_of_mem_payloadParams {p : Param} (h : p ∈ m.payloadParams) : p ∈ m.params := by
  unfold payloadParams at h
  split at h
  · exact List.mem_of_mem_drop h
  · exact h

/-- The arguments that pass the parameters on. -/
theorem isPhrase_callArgs (hs : m.signature.Drafted) (hw : m.signature.Writable) :
    ∀ a ∈ m.callArgs, IsPhrase a.text := by
  intro a ha
  obtain ⟨p, hp, rfl⟩ := List.mem_map.1 ha
  obtain ⟨n, hn, hname⟩ := exists_isName hs hw p hp
  unfold argumentFor
  rw [hn]
  split
  · exact isPhrase_spread hname
  · exact hname.isPhrase

/-- A call of the wrapped method. -/
theorem isPhrase_delegate {receiver field : String} (hr : IsName receiver) (hf : IsName field)
    (hn : IsName m.name) {args : List Expr} (hargs : ∀ a ∈ args, IsPhrase a.text) :
    IsPhrase (m.delegate receiver field args).text :=
  isPhrase_call (isPhrase_path hr hf hn) hargs

/-- The call that passes all parameters on. -/
theorem isPhrase_delegate_callArgs {receiver field : String} (hs : m.signature.Drafted)
    (hw : m.signature.Writable) (hr : IsName receiver) (hf : IsName field) (hn : IsName m.name) :
    IsPhrase (m.delegate receiver field m.callArgs).text :=
  isPhrase_delegate hr hf hn (isPhrase_callArgs hs hw)

/-- The call as a statement, with a `return` in front if there are results. -/
theorem isPhrase_forward {call : Expr} (h : IsPhrase call.text) : IsPhrase (m.forward call) := by
  unfold forward
  split
  · exact h
  · exact @isPhrase_word _ "return" (by decide) h

theorem mem_results_of_mem_valueResults {r : Param} (h : r ∈ m.valueResults) : r ∈ m.results := by
  unfold valueResults at h
  split at h
  · exact (List.dropLast_sublist _).subset h
  · exact h

/-- The zero values of the results. -/
theorem isPhrase_zeroResults (h : ∀ r ∈ m.results, r.shape.Proper) :
    ∀ e ∈ m.zeroResults, IsPhrase e.text := by
  intro e he
  obtain ⟨r, hr, rfl⟩ := List.mem_map.1 he
  exact Shape.isPhrase_zero (h r (mem_results_of_mem_valueResults hr))

/-- Names that are made from types are labels. -/
theorem isLabel_allocateAll (names : Names) {ss : List Shape} (h : ∀ s ∈ ss, s.Proper) :
    ∀ n ∈ (names.allocateAll ss).1, IsLabel n := by
  induction ss generalizing names with
  | nil => simp [Names.allocateAll]
  | cons s ss ih =>
    refine List.forall_mem_cons.2 ⟨?_, ih _ fun t ht ↦ h t (List.mem_cons_of_mem _ ht)⟩
    exact names.isLabel_allocate (Shape.isLabel_variableName (h s (List.mem_cons_self ..)))

/-- The names for the results. -/
theorem isLabel_resultNames (hs : m.signature.Drafted) (names : Names) :
    ∀ n ∈ (m.resultNames names).1, IsLabel n := by
  refine isLabel_allocateAll names fun s hmem ↦ ?_
  obtain ⟨r, hr, rfl⟩ := List.mem_map.1 hmem
  exact hs.shapes r (List.mem_append_right _ (mem_results_of_mem_valueResults hr))

end Bodies

end Method

end GoDecorator
