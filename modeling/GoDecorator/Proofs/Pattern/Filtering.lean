import GoDecorator.Pattern.Filtering
import GoDecorator.Proofs.Decl.Values
import GoDecorator.Proofs.Pattern.Wrapping

/-!
# What the patterns that filter generate

All of them write the same wrapper around one method, and differ in the method. Before anything is
written, the type of the predicates is put together as text and read, so that a filter is there
**exactly if that type can be read, the name of the field is an identifier and the signature of the
method can be written** (`Filter.yields_generate`, `FilterParam.yields_generate`,
`FilterReturn.yields_generate`).

## Predicates

The predicates are functions of all parameters of a call, or of the elements of a collection. Their
type is a function type without names (`predicateType`), and it is legible once it has been read
(`yields_predicateOver`), so that the struct and the constructor add no condition of their own.

## Collections

The two patterns for collections look for the collection twice: once to check the input, and again
in the prepared method. The second search finds one because the first did
(`FilterParam.exists_target_prepare`, `FilterReturn.exists_target_prepare`): a collection stays one
when its type is qualified, and the parameters stay in order.

The loop is the same in both. The names for what is kept and for the keys of a map are chosen by the
pattern and are identifiers; that of an element comes from its type and may be broken
(`Collection.Loop.Named`). What is put into the holes of its template is known to be of the right
kind (`Collection.suits_loopBindings`), and each pattern adds the holes that it has besides.
-/

namespace GoDecorator.Pattern

open Template Token

variable {package field : String} {m : Method} {d : Descriptor}

/-! ### Predicates -/

/-- The type of the predicates over parameters of the given types, as it is written. -/
def predicateType (ps : List Param) : Shape :=
  .function ⟨ps.map ParamOf.withoutName, [.unnamed (.primitive .bool)]⟩

/-- The names in the type of the predicates are identifiers. -/
theorem proper_predicateType {ps : List Param} (h : ∀ p ∈ ps, p.shape.Proper) :
    (predicateType ps).Proper := by
  have hparams : ∀ p ∈ ps.map ParamOf.withoutName, p.name = none ∧ p.shape.Proper := by
    intro p hp
    obtain ⟨q, hq, rfl⟩ := List.mem_map.1 hp
    exact ⟨rfl, h q hq⟩
  have hbool : (Shape.primitive .bool).Legible := by decide
  refine Shape.everywhere_function.2 ⟨⟨.inr fun p hp ↦ (hparams p hp).1,
    .inr (List.forall_mem_singleton.2 rfl), fun p hp n hn ↦ ?_⟩, fun p hp ↦ (hparams p hp).2,
    List.forall_mem_singleton.2 hbool.proper⟩
  have hnone : p.name = none := by
    rcases List.mem_append.1 hp with hp | hp
    · exact (hparams p hp).1
    · obtain rfl := List.mem_singleton.1 hp
      rfl
  rw [hnone] at hn
  cases hn

/-- **The type of the predicates** is there exactly if it can be read. -/
theorem yields_predicateOver {ps : List Param} (h : ∀ p ∈ ps, p.shape.Proper) :
    Yields (.ofOutcome (predicateOver ps)) (predicateType ps).Readable Shape.Legible := by
  have htext : predicateOver ps = Shape.read (predicateType ps).text := by
    rw [predicateOver]
    congr 1
    simp [predicateType, SignatureOf.text, paramListText, resultListText, resultList, standsAlone,
      ParamOf.unnamed, ParamOf.text, commaSeparated, Shape.text, Primitive.text, Function.comp_def,
      ← String.toList_inj]
  have hproper := proper_predicateType h
  refine ⟨fun hr ↦ ?_, fun hr ↦ ?_⟩
  · refine ⟨_, htext.trans (read_text_of_readable hproper hr), ?_⟩
    exact ⟨(Shape.wellFormed_reread hproper).proper, Shape.readable_reread hr⟩
  · obtain ⟨e, he⟩ := read_text_of_not_readable hproper hr
    exact ⟨_, htext.trans he, rfl⟩

namespace Filter

/-! ### The wrapper -/

/-- The templates are of the forms in which they are filled in. -/
class Checked : Prop where
  struct :
    IsWholeTemplate structTemplate ["Field", "Iface", "Filters"] ['\n']
      (structPieces [.literal "Filter"]
        [.literal "\tfilters ", .placeholder "Filters", .literal "\n"])
  constructor :
    IsFuncTemplate constructorTemplate ["Field", "Iface", "Filters"]
      (constructorHead [] [.literal ", filters ", .placeholder "Filters"] [.literal "Filter"])
      [("Field", .name)]
  method :
    IsFuncTemplate methodTemplate ["Method", "Signature", "Args", "Rejected", "Forward"]
      (methodHead [.literal "func (f *Filter) "])
      [("Args", .phrase), ("Rejected", .phrase), ("Forward", .phrase)]

set_option maxRecDepth 8000 in
instance checked : Checked where
  struct := ⟨_, rfl, by decide +kernel⟩
  constructor := ⟨_, rfl, by decide +kernel⟩
  method := ⟨_, rfl, by decide +kernel⟩

/-- The struct is named by an identifier. -/
theorem isName_filter : IsName "Filter" := by decide

/-- So is the receiver. -/
theorem isName_receiver : IsName "f" := by decide

/-- **The wrapper of a filter** is there exactly if the name of its field is an identifier. -/
theorem yields_wrapper (hd : IsName d.name) (hp : IsName package) {predicate : Shape}
    (hpredicate : predicate.Legible) :
    Yields (wrapper package d predicate) (IsName (d.fieldName locals)) fun r ↦
      r.1 = d.fieldName locals ∧ ∀ decl ∈ r.2, decl.Stable := by
  have hlabel := d.isLabel_fieldName hd locals
  have hiface := d.legible_wrapped hd hp
  have hfilters : IsName "filters" := by decide
  have hslice := hpredicate.slice
  refine (yields_struct_constructor "Filter" ?_ ?_ fun fields k _ hs hk ↦ yields_pure ⟨rfl,
    List.forall_mem_cons.2 ⟨hs, List.forall_mem_singleton.2 hk⟩⟩).congr
      (iff_of_eq (and_true _)).symm
  · refine @yields_struct_field _ _ _ _ _ checked.struct rfl _ _ _
      [⟨"filters", .slice predicate⟩] (by simp) rfl rfl ?_ isName_filter hlabel hiface
      (List.forall_mem_singleton.2 ⟨hfilters, hslice.proper, hslice.readable⟩)
    simp [Field.text, padRight, Value.type, Value.render, Snippet.text, ← String.toList_inj]
  · refine @yields_constructor _ _ _ _ _ _ _ checked.constructor rfl "" _ "Filter" _
      [⟨some "filters", .slice predicate, false⟩] (by simp) rfl rfl ?_ (by simp) (by decide)
      isName_filter hlabel hiface (List.forall_mem_singleton.2 (isFixed_of_isName hfilters hslice))
      fun hf ↦ List.forall_mem_singleton.2 hf
    simp [ParamOf.text, Value.type, Value.render, Snippet.text, ← String.toList_inj]

/-- The method of a filter is there exactly if its signature can be written. -/
theorem yields_method {template : String} {keys : List String} {needs : List (String × Need)}
    (htemplate : IsFuncTemplate template keys (methodHead [.literal "func (f *Filter) "]) needs)
    {bindings : Bindings} (hkeys : bindings.map Prod.fst = keys)
    (hmethod : bindings.text "Method" = m.name)
    (hsignature : bindings.text "Signature" = m.signature.text)
    (hm : IsName m.name) (hs : m.signature.Drafted)
    (hneeds : m.signature.Writable → ∀ p ∈ needs, Suits p.2 (bindings.text p.1)) :
    Yields (renderDecl bindings template) m.signature.Writable Decl.Stable :=
  (GoDecorator.yields_method htemplate hkeys (by simp) hmethod hsignature isName_receiver
    isName_filter hm hs hneeds).mono fun _ h ↦ h.2

/-! ### Filtering calls -/

/-- The declaration of the error is always there, in the mode that has one. -/
theorem exists_sentinelDecls (mode : Mode) :
    ∃ ds, (sentinelDecls mode).outcome = .ok ds ∧ ∀ d ∈ ds, d.Stable := by
  cases mode with
  | noError => exact ⟨[], rfl, by simp⟩
  | withError =>
    have hwrites := @writes_var "ErrFiltered" "errors" "New" (some "filtered") (by decide)
      (by decide) (by decide) (by decide)
    have htext : sentinel = (Decl.var ⟨"ErrFiltered", none,
        some (callOf "errors" "New" (some "filtered"))⟩).text := by decide
    have hread : Decl.read sentinel = _ := htext ▸ read_of_writes hwrites
    refine ⟨[_], ?_, List.forall_mem_singleton.2 hwrites⟩
    rw [sentinelDecls, hread]
    rfl

/-- What a refused call returns is a phrase. -/
theorem isPhrase_refusal (mode : Mode) (m : Method) : ∀ e ∈ refusal mode m, IsPhrase e.text := by
  intro e he
  unfold refusal at he
  split at he
  · split at he
    · simp at he
    · obtain rfl := List.mem_singleton.1 he
      exact (by decide : IsName "nil").isPhrase
  · obtain rfl := List.mem_singleton.1 he
    exact (by decide : IsName "ErrFiltered").isPhrase

/-- What a filter depends on: the type of its predicates, the name of its field and the signature of
its method. -/
def Writable (package : String) (d : Descriptor) (m : Method) (asked : List Param) : Prop :=
  (predicateType asked).Readable ∧ IsName (d.fieldName locals) ∧
    (m.prepare package locals).1.signature.Writable

/-- **A filter of calls** is there exactly if the type of the predicates can be read, the name of
the field is an identifier and the signature of the method can be written. -/
theorem yields_generate (mode : Mode) (hd : d.WellFormed) (hp : IsName package)
    (hv : (filter mode package).validate d = .ok ()) :
    Yields ((filter mode package).generate d)
      (∀ m ∈ d.methods, Writable package d m (m.prepare package locals).1.params)
      fun ds ↦ ∀ decl ∈ ds, decl.Stable := by
  obtain ⟨m, hmethods, -⟩ := d.of_singleMethod hv
  have hm : m.WellFormed := hd.methods m (hmethods ▸ List.mem_singleton_self m)
  have hs := Method.drafted_prepare hm hp locals
  have hn : IsName (m.prepare package locals).1.name := hm.1
  obtain ⟨sentinel, hsentinel, hsentinels⟩ := exists_sentinelDecls mode
  have hparams : ∀ p ∈ (m.prepare package locals).1.params, p.shape.Proper := fun p hp ↦
    hs.shapes p (List.mem_append_left _ hp)
  rw [hmethods, List.forall_mem_singleton, Writable]
  refine @Yields.after _ _ _ _ _ _ m (by rw [d.singleMethod_eq hmethods]; rfl) ?_
  refine (yields_predicateOver hparams).bind fun predicate _ hpredicate ↦ ?_
  refine (yields_wrapper hd.name hp hpredicate).bind fun r hf hr ↦ ?_
  obtain ⟨field, decls⟩ := r
  obtain ⟨rfl, hdecls⟩ := hr
  refine (yields_method checked.method rfl rfl rfl hn hs fun hw ↦ ?_).bind_true fun method _ h ↦
    Yields.after hsentinel (yields_pure ?_)
  · simp only [List.forall_mem_cons]
    exact ⟨isPhrase_exprs (Method.isPhrase_callArgs hs hw),
      isPhrase_exprs (isPhrase_refusal mode _), Method.isPhrase_forward
        (Method.isPhrase_delegate_callArgs hs hw isName_receiver hf hn), List.forall_mem_nil _⟩
  · simp only [List.forall_mem_append, List.forall_mem_singleton]
    exact ⟨⟨hsentinels, hdecls⟩, h⟩

end Filter

/-! ### Collections -/

/-- Whether a type is a slice or a map. -/
def isCollection : Shape → Bool
  | .slice _ | .map _ _ => true
  | _ => false

namespace Collection

/-- **A type that is filtered is a slice or a map**, directly or behind a pointer. -/
theorem ofShape_eq_ok_iff {s : Shape} {method : String} {place : CollectionPlace}
    {c : Collection} :
    ofShape s method place = .ok c ↔
      isCollection c.shape = true ∧ s = if c.pointer then .pointer c.shape else c.shape := by
  obtain ⟨shape, pointer⟩ := c
  -- A shape that is no pointer is looked at itself, and that of a pointer's target otherwise.
  cases s with
  | pointer t => cases t <;> cases pointer <;> cases shape <;> simp [ofShape, isCollection]
  | _ => cases pointer <;> cases shape <;> simp [ofShape, isCollection]

/-- A collection stays one when its type is qualified. -/
theorem exists_ofShape_qualify {s : Shape} {method : String} {place : CollectionPlace}
    {c : Collection} (h : ofShape s method place = .ok c) (package : String) :
    ∃ c', ofShape (s.qualify package) method place = .ok c' := by
  obtain ⟨hcollection, rfl⟩ := ofShape_eq_ok_iff.1 h
  refine ⟨⟨c.shape.qualify package, c.pointer⟩, ofShape_eq_ok_iff.2 ⟨?_, ?_⟩⟩
  · obtain ⟨shape, pointer⟩ := c
    cases shape <;> first | rfl | cases hcollection
  · split <;> rfl

/-- The names in the type of a collection are identifiers, if those in the whole type are. -/
theorem proper_of_ofShape {s : Shape} {method : String} {place : CollectionPlace}
    {c : Collection} (h : ofShape s method place = .ok c) (hs : s.Proper) :
    c.shape.Proper ∧ c.element.Proper := by
  obtain ⟨hcollection, rfl⟩ := ofShape_eq_ok_iff.1 h
  have hshape : c.shape.Proper := by
    split at hs
    · exact (Shape.everywhere_pointer.1 hs).2
    · exact hs
  refine ⟨hshape, ?_⟩
  obtain ⟨shape, pointer⟩ := c
  cases shape with
  | slice elem => exact (Shape.everywhere_slice.1 hshape).2
  | map k v => exact (Shape.everywhere_map.1 hshape).2.2
  | _ => cases hcollection

/-! ### The loop -/

/-- The names in a loop: what is kept and the key are identifiers, and the others are labels. -/
structure Loop.Named (l : Loop) (c : Collection) : Prop where
  source : IsLabel l.source
  kept : IsName l.kept
  item : IsLabel l.item
  key : c.isMap = true → IsName l.key

theorem named_loopNames {c : Collection} (hc : c.element.Proper) {source : String}
    (hs : IsLabel source) (names : Names) : (c.loopNames source names).Named c where
  source := hs
  kept := names.isName_allocate (by decide)
  item := Names.isLabel_allocate _ (Shape.isLabel_variableName hc)
  key hmap := by
    show IsName (if c.isMap then _ else _)
    rw [if_pos hmap]
    exact Names.isName_allocate _ (by decide)

/-- What is put into the holes of a loop. -/
def loopNeeds : List (String × Need) :=
  [("Kept", .name), ("Empty", .phrase), ("Range", .phrase), ("Source", .phrase), ("Item", .label),
    ("Keep", .phrase)]

/-- What is kept, in the form in which the collection is passed, is a phrase. -/
theorem isPhrase_result (c : Collection) {kept : String} (h : IsName kept) :
    IsPhrase (c.result kept).text := by
  unfold result
  split
  · exact @isPhrase_unary .amp (by decide) rfl kept (.inl h)
  · exact h.isPhrase

/-- **The texts of a loop are what its holes ask for**, whatever else is bound. -/
theorem suits_loopBindings {c : Collection} (hc : c.shape.Proper) {l : Loop} (hl : l.Named c)
    {bindings : Bindings} (keys : List String) (hkeys : bindings.map Prod.fst = keys)
    (hother : ∀ p ∈ loopNeeds, p.1 ∉ keys) :
    ∀ p ∈ loopNeeds, Suits p.2 (Bindings.text (bindings ++ c.loopBindings l) p.1) := by
  have hpair {a b : String} (ha : IsPhrase a) (hb : IsPhrase b) : IsPhrase (a ++ ", " ++ b) := by
    have hcomma := @isPhrase_commaSeparated [a, b]
      (List.forall_mem_cons.2 ⟨ha, List.forall_mem_singleton.2 hb⟩)
    simpa [commaSeparated] using hcomma
  have hassign {a b : String} (ha : IsPhrase a) (hb : IsPhrase b) : IsPhrase (a ++ " = " ++ b) := by
    have hbetween := @isPhrase_between _ _ .assign (by decide) rfl ha hb
    simpa [Kind.text, String.append_assoc] using hbetween
  intro p hp
  rw [Bindings.text_append (hkeys ▸ hother p hp)]
  revert p
  simp only [loopNeeds, List.forall_mem_cons]
  refine ⟨hl.kept, Shape.isPhrase_zero hc, ?_, ?_, hl.item, ?_, List.forall_mem_nil _⟩
  · -- The variables of the loop.
    show IsPhrase ((if c.isMap then l.key else "_") ++ ", " ++ l.item)
    split
    · rename_i hmap
      exact hpair (hl.key hmap).isPhrase hl.item.isPhrase
    · exact hpair (by decide : IsName "_").isPhrase hl.item.isPhrase
  · -- What the loop runs over.
    show IsPhrase ((if c.pointer then "*" else "") ++ l.source)
    split
    · exact @isPhrase_unary .star (by decide) rfl _ hl.source
    · simpa using hl.source.isPhrase
  · -- The statement that keeps an element.
    show IsPhrase (if c.isMap then l.kept ++ "[" ++ l.key ++ "] = " ++ l.item
      else l.kept ++ " = append(" ++ l.kept ++ ", " ++ l.item ++ ")")
    split
    · rename_i hmap
      have htext : l.kept ++ "[" ++ l.key ++ "] = " ++ l.item =
          l.kept ++ (Kind.opening .square).text ++ l.key ++ (Kind.closing .square).text ++ " = " ++
            l.item := by
        simp [Kind.text, ← String.toList_inj]
      rw [htext]
      exact hassign (isPhrase_applied .square hl.kept.isPhrase (hl.key hmap).isPhrase)
        hl.item.isPhrase
    · have htext : l.kept ++ " = append(" ++ l.kept ++ ", " ++ l.item ++ ")" =
          l.kept ++ " = " ++ ("append" ++ (Kind.opening .paren).text ++
            (l.kept ++ ", " ++ l.item) ++ (Kind.closing .paren).text) := by
        simp [Kind.text, ← String.toList_inj]
      rw [htext]
      exact hassign hl.kept.isPhrase (isPhrase_applied .paren (by decide : IsName "append").isPhrase
        (hpair hl.kept.isPhrase hl.item.isPhrase))

end Collection

/-! ### Filtering an argument -/

namespace FilterParam

set_option maxRecDepth 8000 in
theorem isFunc_methodTemplate :
    IsFuncTemplate methodTemplate
      ["Method", "Signature", "Forward", "Kept", "Empty", "Range", "Source", "Item", "Keep"]
      (methodHead [.literal "func (f *Filter) "])
      (("Forward", .phrase) :: Collection.loopNeeds) :=
  ⟨_, rfl, by decide +kernel⟩

/-- **The collection is found again** in the prepared method. -/
theorem exists_target_prepare {c : Collection} (h : target m = .ok c) (package : String)
    (reserved : List String) :
    ∃ p c', (m.prepare package reserved).1.params[targetIndex (m.prepare package reserved).1]? =
        some p ∧
      Collection.ofShape p.bodyShape (m.prepare package reserved).1.name .firstParameter =
        .ok c' ∧
      target (m.prepare package reserved).1 = .ok c' := by
  have hindex : targetIndex (m.prepare package reserved).1 = targetIndex m := by
    rw [targetIndex, targetIndex, m.takesContext_prepare]
  have hshapes := m.map_bodyShape_prepare package reserved
  have hname : (m.prepare package reserved).1.name = m.name := rfl
  generalize (m.prepare package reserved).1 = prepared at hindex hshapes hname ⊢
  unfold target at h ⊢
  rw [hindex]
  split at h
  · cases h
  · rename_i p hp
    obtain ⟨c', hc'⟩ := Collection.exists_ofShape_qualify h package
    -- The parameter at the same place has the qualified type.
    have hshape := congrArg (·[targetIndex m]?) hshapes
    simp only [List.getElem?_map, hp, Option.map_some] at hshape
    obtain ⟨q, hq, hbody⟩ := Option.map_eq_some_iff.1 hshape
    rw [← hbody, ← hname] at hc'
    refine ⟨q, c', hq, hc', ?_⟩
    rw [hq]
    exact hc'

/-- The pattern applies to one method with a collection. -/
theorem exists_target_of_validate (hv : (filterParam package).validate d = .ok ()) :
    ∃ m c, d.methods = [m] ∧ target m = .ok c := by
  obtain ⟨m, hmethods, hcheck⟩ := d.of_singleMethod hv
  obtain ⟨c, htarget, -⟩ := exists_of_bind_eq_ok hcheck
  exact ⟨m, c, hmethods, htarget⟩

/-- **A filter of an argument** is there exactly if the type of the predicates can be read, the name
of the field is an identifier and the signature of the method can be written. -/
theorem yields_generate (hd : d.WellFormed) (hp : IsName package)
    (hv : (filterParam package).validate d = .ok ()) :
    Yields ((filterParam package).generate d)
      (∀ m ∈ d.methods, ∀ c, target (m.prepare package Filter.locals).1 = .ok c →
        Filter.Writable package d m [.unnamed c.element])
      fun ds ↦ ∀ decl ∈ ds, decl.Stable := by
  obtain ⟨m, c₀, hmethods, hc₀⟩ := exists_target_of_validate hv
  have hm : m.WellFormed := hd.methods m (hmethods ▸ List.mem_singleton_self m)
  obtain ⟨p, c, hp', hshape, htarget⟩ := exists_target_prepare hc₀ package Filter.locals
  have hs := Method.drafted_prepare hm hp Filter.locals
  have hn : IsName (m.prepare package Filter.locals).1.name := hm.1
  rw [hmethods, List.forall_mem_singleton]
  refine Yields.congr (c := Filter.Writable package d m [.unnamed c.element]) ?_
    ⟨fun h ↦ h c htarget, fun h c' hc' ↦ Except.ok.inj (htarget.symm.trans hc') ▸ h⟩
  refine @Yields.after _ _ _ _ _ _ m (by rw [d.singleMethod_eq hmethods]; rfl) ?_
  unfold Filter.Writable
  generalize m.prepare package Filter.locals = prepared at hp' hshape htarget hs hn ⊢
  obtain ⟨m, names⟩ := prepared
  dsimp only at hp' hshape htarget hs hn ⊢
  have hmem : p ∈ m.params := List.mem_of_getElem? hp'
  have hproper := Collection.proper_of_ofShape hshape
    (ParamOf.proper_bodyShape (hs.shapes p (List.mem_append_left _ hmem)))
  refine @Yields.after _ _ _ _ _ _ c (by rw [htarget]; rfl) ?_
  refine (yields_predicateOver (List.forall_mem_singleton.2 hproper.2)).bind
    fun predicate _ hpredicate ↦ ?_
  refine (Filter.yields_wrapper hd.name hp hpredicate).bind fun r hf hr ↦ ?_
  obtain ⟨field, decls⟩ := r
  obtain ⟨rfl, hdecls⟩ := hr
  refine @Yields.after _ _ _ _ _ _ p (by simp only [elementAt, hp']; rfl) ?_
  obtain ⟨source, hsource, hlabel⟩ := hs.params p hmem
  have hlength : targetIndex m < m.callArgs.length := by
    rw [Method.callArgs, List.length_map]
    exact (List.getElem?_eq_some_iff.1 hp').1
  refine Yields.after (if_pos hlength) ?_
  rw [hsource]
  have hloop := Collection.named_loopNames hproper.2 hlabel names
  refine (Filter.yields_method isFunc_methodTemplate rfl rfl rfl hn hs fun hw ↦ ?_).bind_true
    fun method _ h ↦ yields_pure ?_
  · refine List.forall_mem_cons.2 ⟨Method.isPhrase_forward (Method.isPhrase_delegate
      Filter.isName_receiver hf hn fun a ha ↦ ?_), ?_⟩
    · rcases List.mem_or_eq_of_mem_set ha with ha | rfl
      · exact Method.isPhrase_callArgs hs hw a ha
      · split
        · exact isPhrase_spread hloop.kept
        · exact c.isPhrase_result hloop.kept
    · exact Collection.suits_loopBindings hproper.1 hloop ["Method", "Signature", "Forward"] rfl
        (by decide)
  · exact List.forall_mem_append.2 ⟨hdecls, List.forall_mem_singleton.2 h⟩

end FilterParam

/-! ### Filtering a result -/

namespace FilterReturn

set_option maxRecDepth 8000 in
theorem isFunc_methodTemplate :
    IsFuncTemplate methodTemplate
      ["Method", "Signature", "Call", "Guards", "Returns", "Results", "Kept", "Empty", "Range",
        "Source", "Item", "Keep"]
      (methodHead [.literal "func (f *Filter) "])
      (("Call", .phrase) :: ("Guards", .phrase) :: ("Returns", .phrase) :: ("Results", .phrase) ::
        Collection.loopNeeds) :=
  ⟨_, rfl, by decide +kernel⟩

/-- **The collection is found again** in the prepared method. -/
theorem exists_target_prepare {c : Collection} (h : target m = .ok c) (package : String)
    (reserved : List String) :
    ∃ r rs c', (m.prepare package reserved).1.results = r :: rs ∧
      Collection.ofShape r.shape (m.prepare package reserved).1.name .firstResult = .ok c' ∧
      target (m.prepare package reserved).1 = .ok c' := by
  unfold target at h ⊢
  rw [m.results_prepare, Method.qualified_results]
  cases hresults : m.results with
  | nil => rw [hresults] at h; cases h
  | cons r rs =>
    rw [hresults] at h
    obtain ⟨c', hc'⟩ := Collection.exists_ofShape_qualify h package
    exact ⟨_, _, c', rfl, hc', hc'⟩

/-- An early return is a phrase. -/
theorem isPhrase_guard {results condition : String} (hr : IsPhrase results)
    (hc : IsPhrase condition) : IsPhrase (guard results condition) := by
  have hinner : IsPhrase ("\n" ++ ("\t" ++ ("\t" ++ ("return" ++ " " ++ (results ++ "\n\t"))))) :=
    isPhrase_newline (isPhrase_tab (isPhrase_tab (isPhrase_word (by decide) (isPhrase_append hr
      (isPhrase_newline (isPhrase_tab isPhrase_empty)) rfl))))
  have hblock := isPhrase_applied .brace
    (isPhrase_tab (isPhrase_word (by decide : IsName "if") (isPhrase_append_blank hc))) hinner
  have htext : guard results condition =
      "\t" ++ ("if" ++ " " ++ (condition ++ " ")) ++ (Kind.opening .brace).text ++
        ("\n" ++ ("\t" ++ ("\t" ++ ("return" ++ " " ++ (results ++ "\n\t"))))) ++
        (Kind.closing .brace).text ++ ("\n" ++ "") := by
    simp [guard, Kind.text, ← String.toList_inj]
  rw [htext]
  exact isPhrase_append hblock (isPhrase_newline isPhrase_empty) (by decide)

/-- The early returns are a phrase, of several lines. -/
theorem isPhrase_guards {c : Collection} {results : List Expr}
    (hr : ∀ e ∈ results, IsPhrase e.text) {err : Option String} (he : ∀ n ∈ err, IsName n)
    {source : String} (hs : IsLabel source) : IsPhrase (guards c results err source) := by
  have hnil : IsPhrase "nil" := (by decide : IsName "nil").isPhrase
  have hcompared {k : Kind} (hk : k ∈ symbols) (hn : k.isNeutral = true) {a : String}
      (ha : IsPhrase a) {text : String} (htext : text = " " ++ k.text ++ " " ++ "nil") :
      IsPhrase (a ++ text) := by
    have hbetween := isPhrase_between hk hn ha hnil
    rw [htext]
    simpa only [String.append_assoc] using hbetween
  have hconditions : ∀ condition ∈ (err.map (· ++ " != nil")).toList ++
      (if c.pointer then [source ++ " == nil"] else []), IsPhrase condition := by
    refine List.forall_mem_append.2 ⟨fun t ht ↦ ?_, fun t ht ↦ ?_⟩
    · obtain ⟨n, hn, rfl⟩ := Option.map_eq_some_iff.1 (Option.mem_toList.1 ht)
      exact @hcompared (.op "!=") (by decide) rfl n (he n hn).isPhrase _ (by decide)
    · split at ht
      · obtain rfl := List.mem_singleton.1 ht
        exact @hcompared (.op "==") (by decide) rfl source hs.isPhrase _ (by decide)
      · simp at ht
  have hresults : IsPhrase (commaSeparated (results.map Expr.text)) := by
    refine isPhrase_commaSeparated fun t ht ↦ ?_
    obtain ⟨e, he, rfl⟩ := List.mem_map.1 ht
    exact hr e he
  refine isPhrase_join fun t ht ↦ ?_
  obtain ⟨condition, hcondition, rfl⟩ := List.mem_map.1 ht
  refine ⟨isPhrase_guard hresults (hconditions condition hcondition), ?_⟩
  simp [guard, terminators]

theorem isName_errorName (m : Method) (names : Names) :
    ∀ n ∈ (errorName m names).1, IsName n := by
  intro n hn
  unfold errorName at hn
  split at hn
  · exact Option.some.inj hn ▸ names.isName_allocate (by decide)
  · cases hn

/-- A method with results has a name for one at least. -/
theorem resultNames_ne_nil (hne : m.results ≠ []) (names : Names) :
    (m.resultNames names).1 ++ (errorName m (m.resultNames names).2).1.toList ≠ [] := by
  cases herr : m.returnsError with
  | true =>
    -- The error itself has a name.
    refine List.append_ne_nil_of_right_ne_nil _ ?_
    simp [errorName, herr]
  | false =>
    refine List.append_ne_nil_of_left_ne_nil ?_ _
    obtain ⟨r, rs, hresults⟩ := List.exists_cons_of_ne_nil hne
    simp [Method.resultNames, Method.valueResults, herr, hresults, Names.allocateAll]

/-- **The names for the results**: there is at least one, and all are labels. -/
theorem exists_resultNames (hs : m.signature.Drafted) (hne : m.results ≠ []) (names : Names) :
    ∃ n ns, (m.resultNames names).1 ++ (errorName m (m.resultNames names).2).1.toList = n :: ns ∧
      ∀ x ∈ n :: ns, IsLabel x := by
  have hlabels : ∀ x ∈ (m.resultNames names).1 ++
      (errorName m (m.resultNames names).2).1.toList, IsLabel x :=
    List.forall_mem_append.2 ⟨Method.isLabel_resultNames hs names, fun x hx ↦
      .inl (isName_errorName m _ x (Option.mem_toList.1 hx))⟩
  obtain ⟨n, ns, heq⟩ := List.exists_cons_of_ne_nil (resultNames_ne_nil hne names)
  exact ⟨n, ns, heq, heq ▸ hlabels⟩

/-- The pattern applies to one method with a collection. -/
theorem exists_target_of_validate (hv : (filterReturn package).validate d = .ok ()) :
    ∃ m c, d.methods = [m] ∧ target m = .ok c := by
  obtain ⟨m, hmethods, hcheck⟩ := d.of_singleMethod hv
  obtain ⟨c, htarget, -⟩ := exists_of_bind_eq_ok hcheck
  exact ⟨m, c, hmethods, htarget⟩

/-- **A filter of a result** is there exactly if the type of the predicates can be read, the name
of the field is an identifier and the signature of the method can be written. -/
theorem yields_generate (hd : d.WellFormed) (hp : IsName package)
    (hv : (filterReturn package).validate d = .ok ()) :
    Yields ((filterReturn package).generate d)
      (∀ m ∈ d.methods, ∀ c, target (m.prepare package Filter.locals).1 = .ok c →
        Filter.Writable package d m [.unnamed c.element])
      fun ds ↦ ∀ decl ∈ ds, decl.Stable := by
  obtain ⟨m, c₀, hmethods, hc₀⟩ := exists_target_of_validate hv
  have hm : m.WellFormed := hd.methods m (hmethods ▸ List.mem_singleton_self m)
  obtain ⟨r, rs, c, hresults, hshape, htarget⟩ := exists_target_prepare hc₀ package Filter.locals
  have hs := Method.drafted_prepare hm hp Filter.locals
  have hn : IsName (m.prepare package Filter.locals).1.name := hm.1
  rw [hmethods, List.forall_mem_singleton]
  refine Yields.congr (c := Filter.Writable package d m [.unnamed c.element]) ?_
    ⟨fun h ↦ h c htarget, fun h c' hc' ↦ Except.ok.inj (htarget.symm.trans hc') ▸ h⟩
  refine @Yields.after _ _ _ _ _ _ m (by rw [d.singleMethod_eq hmethods]; rfl) ?_
  unfold Filter.Writable
  generalize m.prepare package Filter.locals = prepared at hresults hshape htarget hs hn ⊢
  obtain ⟨m, names⟩ := prepared
  dsimp only at hresults hshape htarget hs hn ⊢
  have hmem : r ∈ m.results := hresults ▸ List.mem_cons_self ..
  have hproper := Collection.proper_of_ofShape hshape (hs.proper_results r hmem)
  refine @Yields.after _ _ _ _ _ _ c (by rw [htarget]; rfl) ?_
  refine (yields_predicateOver (List.forall_mem_singleton.2 hproper.2)).bind
    fun predicate _ hpredicate ↦ ?_
  refine (Filter.yields_wrapper hd.name hp hpredicate).bind fun r hf hr ↦ ?_
  obtain ⟨field, decls⟩ := r
  obtain ⟨rfl, hdecls⟩ := hr
  obtain ⟨source, others, hnames, hlabels⟩ :=
    exists_resultNames hs (List.ne_nil_of_mem hmem) names
  have herr := isName_errorName m (m.resultNames names).2
  have hphrases : ∀ e ∈ (source :: others).map Expr.ident, IsPhrase e.text := by
    intro e he
    obtain ⟨n, hn, rfl⟩ := List.mem_map.1 he
    exact (hlabels n hn).isPhrase
  have hsource := hlabels source (List.mem_cons_self ..)
  simp only [hnames]
  refine @Yields.after _ _ _ _ _ _ (.ident source) rfl ?_
  refine @Yields.after _ _ _ _ _ _ (_ :: others.map Expr.ident) rfl ?_
  have hloop := Collection.named_loopNames hproper.2 hsource (errorName m (m.resultNames names).2).2
  have hreturns : ∀ e ∈ c.result (c.loopNames source
      (errorName m (m.resultNames names).2).2).kept :: others.map Expr.ident, IsPhrase e.text :=
    List.forall_mem_cons.2
      ⟨c.isPhrase_result hloop.kept, (List.forall_mem_cons.1 hphrases).2⟩
  refine (Filter.yields_method isFunc_methodTemplate rfl rfl rfl hn hs fun hw ↦ ?_).bind_true
    fun method _ h ↦ yields_pure ?_
  · -- what is filled in, without the bindings that it is looked up in
    have hcall := Method.isPhrase_delegate_callArgs hs hw Filter.isName_receiver hf hn
    have hguards := @isPhrase_guards c _ hphrases _ herr _ hsource
    have hreturned := isPhrase_exprs hreturns
    have hresults := isPhrase_exprs hphrases
    simp only [List.forall_mem_cons]
    exact ⟨hcall, hguards, hreturned, hresults,
      Collection.suits_loopBindings hproper.1 hloop
        ["Method", "Signature", "Call", "Guards", "Returns", "Results"] rfl (by decide)⟩
  · exact List.forall_mem_append.2 ⟨hdecls, List.forall_mem_singleton.2 h⟩

end FilterReturn

end GoDecorator.Pattern
