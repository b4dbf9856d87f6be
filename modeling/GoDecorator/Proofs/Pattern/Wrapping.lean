import GoDecorator.Proofs.Descriptor.Preparing
import GoDecorator.Proofs.Template.Declarations

/-!
# Wrappers

What the patterns have in common. A pattern writes a struct, a constructor and methods, each from a
template of its own, and each of them is there under a condition on the names and types that are put
in.

## Derived names

The one derived name in the struct and in the constructor is that of the field for the wrapped
value. So **both are there exactly if that name is an identifier** (`yields_struct_field`,
`yields_constructor`). It is a label in any case (`Descriptor.isLabel_fieldName`), so what the
templates need of it for their tokens is always given, and only the parser can turn it down.

A method is there exactly if its signature can be written (`yields_method`). Its receiver is chosen
by the pattern, and what is put into its body only has to be right if the signature can be written:
otherwise the parser does not come that far.

## What is known in advance

The other parameters, fields and results of what a pattern writes are known in advance:
`ParamOf.Plain` and `FieldOk` say that nothing can go wrong with them. Both can be decided, so that
a pattern leaves it to the kernel to go through its fixed parameters.

## Putting a wrapper together

`Wraps` says of a list of declarations that each of them is stable, that the struct is one of them,
and that the last ones are the methods in order. `yields_wrapper` puts the conditions on the parts
together: the patterns only have to name them.
-/

namespace GoDecorator

open Token Template

/-! ### Legible types -/

/-- A type whose text is read: its names are identifiers, and nothing stands in the way. -/
structure Shape.Legible (s : Shape) : Prop where
  /-- The names in the type are identifiers. -/
  proper : s.Proper
  /-- The type can be read. -/
  readable : s.Readable

instance (s : Shape) : Decidable s.Legible :=
  decidable_of_iff
    ((s.Everywhere fun t ↦ t.HasNames) ∧ s.Everywhere fun t ↦ t.isLoneVariadic = false)
    ⟨fun h ↦ ⟨h.1, h.2⟩, fun h ↦ ⟨h.1, h.2⟩⟩

/-- A named type is legible if its names are identifiers. -/
theorem Shape.legible_named {q : Option String} {n : String} (hq : ∀ x ∈ q, IsName x)
    (hn : IsName n) : (Shape.named q n).Legible :=
  ⟨everywhere_named.2 ⟨hq, hn⟩, everywhere_named.2 rfl⟩

/-- A pointer to a legible type is legible. -/
theorem Shape.Legible.pointer {s : Shape} (h : s.Legible) : (Shape.pointer s).Legible :=
  ⟨everywhere_pointer.2 ⟨trivial, h.proper⟩, everywhere_pointer.2 ⟨rfl, h.readable⟩⟩

/-- So is a slice. -/
theorem Shape.Legible.slice {s : Shape} (h : s.Legible) : (Shape.slice s).Legible :=
  ⟨everywhere_slice.2 ⟨trivial, h.proper⟩, everywhere_slice.2 ⟨rfl, h.readable⟩⟩

instance (f : Field) : Decidable (FieldOk f) :=
  decidable_of_iff (IsName f.name ∧ f.shape.Legible)
    ⟨fun h ↦ ⟨h.1, h.2.proper, h.2.readable⟩, fun h ↦ ⟨h.name, h.proper, h.readable⟩⟩

/-! ### Descriptors -/

/-- A descriptor whose names are identifiers and whose types are well-formed. -/
structure Descriptor.WellFormed (d : Descriptor) : Prop where
  /-- The declared name is an identifier. -/
  name : IsName d.name
  /-- The methods are well-formed. -/
  methods : ∀ m ∈ d.methods, m.WellFormed

namespace Descriptor

variable {d : Descriptor} {package : String}

/-- The type of the wrapped value is legible. -/
theorem legible_wrapped (hd : IsName d.name) (hp : IsName package) : (d.wrapped package).Legible :=
  Shape.legible_named (fun _ hx ↦ Option.some.inj hx ▸ hp) hd

/-- **The name of the field for the wrapped value is a label.** -/
theorem isLabel_fieldName (hd : IsName d.name) (taken : List String) :
    IsLabel (d.fieldName taken) := by
  refine (Names.ofReserved taken).isLabel_allocate (Shape.isLabel_variableName ?_)
  exact Shape.everywhere_named.2 ⟨by simp, hd⟩

/-- Without a dotted capital in front, the name of the field is an identifier. -/
theorem isName_fieldName_of_isUndotted (hd : IsName d.name) (hu : IsUndotted d.name)
    (taken : List String) : IsName (d.fieldName taken) := by
  refine (Names.ofReserved taken).isName_allocate (Shape.isName_variableName ?_ ?_)
  · exact Shape.everywhere_named.2 ⟨by simp, hd⟩
  · exact Shape.everywhere_named.2 hu

/-- A check of every method that passes does so for each of them. -/
theorem of_forEachMethod {check : Method → Check Unit} (h : d.forEachMethod check = .ok ()) :
    ∀ m ∈ d.methods, check m = .ok () := by
  unfold forEachMethod at h
  generalize d.methods = ms at h ⊢
  induction ms with
  | nil => exact List.forall_mem_nil _
  | cons m ms ih =>
    obtain ⟨_, hcheck, h⟩ := exists_of_bind_eq_ok h
    exact List.forall_mem_cons.2 ⟨hcheck, ih h⟩

/-- A check of the one method that passes: there is one method, and it passes. -/
theorem of_singleMethod {α : Type} {check : Method → Check α} {a : α}
    (h : d.singleMethod >>= check = .ok a) : ∃ m, d.methods = [m] ∧ check m = .ok a := by
  unfold singleMethod at h
  split at h
  · rename_i m hmethods
    exact ⟨m, hmethods, h⟩
  · cases h

/-- The one method of a descriptor is found. -/
theorem singleMethod_eq {m : Method} (h : d.methods = [m]) : d.singleMethod = .ok m := by
  rw [singleMethod, h]
  rfl

end Descriptor

/-- A name with `New` in front of it is an identifier. -/
theorem isName_new {name : String} (h : IsName name) : IsName ("New" ++ name) := by
  refine isName_iff.2 ⟨?_, Option.eq_none_iff_forall_ne_some.2 fun k hk ↦ ?_⟩
  · have hparts : ∀ c ∈ name.toList, Text.isIdentPart c = true :=
      Text.isIdentPart_of_isIdentifier (isName_iff.1 h).1
    rw [String.toList_append]
    exact Text.isIdentifier_append (by decide) hparts
  · have hlower := isLower_of_ofText? hk 'N' (by simp)
    exact absurd hlower (by decide)

/-! ### Signatures that are known in advance -/

/-- A parameter with a legible type and a name that may be broken. -/
structure ParamOf.Plain (p : Param) : Prop where
  /-- There is a name. -/
  name : ∃ n, p.name = some n ∧ IsLabel n
  /-- The type is legible. -/
  legible : p.shape.Legible

/-- A result without a name and with a legible type. -/
structure ParamOf.PlainResult (r : Param) : Prop where
  /-- There is no name. -/
  name : r.name = none
  /-- It is not variadic. -/
  variadic : r.variadic = false
  /-- The type is legible. -/
  legible : r.shape.Legible

/-- A parameter with an identifier for its name and a legible type. -/
def ParamOf.IsFixed (p : Param) : Prop :=
  p.name.any (fun n ↦ decide (IsName n)) = true ∧ p.shape.Legible

instance (p : Param) : Decidable p.IsFixed :=
  inferInstanceAs (Decidable (p.name.any (fun n ↦ decide (IsName n)) = true ∧ p.shape.Legible))

/-- A parameter is fixed if its name is an identifier and its type is legible. -/
theorem isFixed_of_isName {n : String} {s : Shape} (hn : IsName n) (hs : s.Legible) :
    ParamOf.IsFixed ⟨some n, s, false⟩ := ⟨decide_eq_true hn, hs⟩

theorem ParamOf.IsFixed.exists_isName {p : Param} (h : p.IsFixed) :
    ∃ n, p.name = some n ∧ IsName n := by
  obtain ⟨n, hn, hname⟩ := (Option.any_eq_true _ _).1 h.1
  exact ⟨n, hn, of_decide_eq_true hname⟩

theorem ParamOf.IsFixed.plain {p : Param} (h : p.IsFixed) : p.Plain := by
  obtain ⟨n, hn, hname⟩ := h.exists_isName
  exact ⟨⟨n, hn, .inl hname⟩, h.2⟩

/-- A constructor has a plain result. -/
theorem plainResult_pointer {name : String} (hn : IsName name) :
    ParamOf.PlainResult (.unnamed (.pointer (.named none name))) :=
  ⟨rfl, rfl, (Shape.legible_named (by simp) hn).pointer⟩

section Plain

variable {ps rs : List Param}

/-- Plain parameters and results make a drafted signature. -/
theorem drafted_of_plain (hps : ∀ p ∈ ps, p.Plain) (hrs : ∀ r ∈ rs, r.PlainResult) :
    SignatureOf.Drafted (⟨ps, rs⟩ : Signature) :=
  ⟨fun p hp ↦ (hps p hp).name, fun r hr ↦ (hrs r hr).name,
    List.forall_mem_append.2 ⟨fun p hp ↦ (hps p hp).legible.proper,
      fun r hr ↦ (hrs r hr).legible.proper⟩⟩

/-- Such a signature can be written exactly if the names of its parameters are identifiers. -/
theorem writable_iff_of_plain (hps : ∀ p ∈ ps, p.Plain) (hrs : ∀ r ∈ rs, r.PlainResult) :
    SignatureOf.Writable (⟨ps, rs⟩ : Signature) ↔ ∀ p ∈ ps, ∀ n ∈ p.name, IsName n := by
  refine and_iff_left (Shape.everywhere_function.2
    ⟨?_, fun p hp ↦ (hps p hp).legible.readable, fun r hr ↦ (hrs r hr).legible.readable⟩)
  unfold Shape.isLoneVariadic
  split
  · rename_i heq
    obtain ⟨-, rfl⟩ := SignatureOf.mk.inj (Shape.function.inj heq)
    exact absurd (hrs _ (List.mem_singleton_self _)).variadic (by simp)
  · rfl

end Plain

/-! ### The parts of a wrapper -/

section Parts

variable {template : String} {keys : List String} {bindings : Bindings}

/-- The pieces of the struct of a wrapper: `name` are those of its name, and `tail` those of the
lines after the field for the wrapped value. -/
def structPieces (name tail : List Piece) : List Piece :=
  .literal "type " :: (name ++ .literal " struct \x7b\n\t" :: .placeholder "Field" ::
    .literal " " :: .placeholder "Iface" :: .literal "\n" :: (tail ++ [.literal "\x7d"]))

/-- **The struct of a wrapper** is there exactly if the name of its field is an identifier. -/
theorem yields_struct_field {ps tail : List Piece}
    (htemplate : IsWholeTemplate template keys ['\n'] (structPieces ps tail))
    (hkeys : bindings.map Prod.fst = keys) {name field : String} {iface : Shape}
    {extra : List Field} (hname : fillPieces bindings.text ps = name)
    (hfield : bindings.text "Field" = field) (hiface : bindings.text "Iface" = iface.text)
    (htail : fillPieces bindings.text tail = String.join (extra.map (Field.text 0)))
    (hn : IsName name) (hlabel : IsLabel field) (hlegible : iface.Legible)
    (hextra : ∀ f ∈ extra, FieldOk f) :
    Yields (renderDecl bindings template) (IsName field) fun d ↦
      (∃ fields, d = .type ⟨name, .struct fields⟩) ∧ d.Stable := by
  have hfill : fillPieces bindings.text (structPieces ps tail) =
      structText 0 name (⟨field, iface⟩ :: extra) := by
    simp [structPieces, fillPieces_append, hname, hfield, hiface, htail, structText, Field.text,
      padRight, ← String.toList_inj]
  have hstruct := yields_struct htemplate hkeys hfill hn (List.cons_ne_nil _ _)
    (List.forall_mem_cons.2 ⟨⟨hlabel, hlegible.proper⟩, fun f hf ↦
      ⟨.inl (hextra f hf).name, (hextra f hf).proper⟩⟩)
  refine (hstruct.mono fun d hd ↦ ⟨⟨_, hd.1⟩, hd.2⟩).congr ?_
  rw [List.forall_mem_cons]
  exact ⟨fun h ↦ ⟨⟨h, hlegible.readable⟩, fun f hf ↦ ⟨(hextra f hf).name, (hextra f hf).readable⟩⟩,
    fun h ↦ h.1.1⟩

/-- **A function whose signature is known in advance** is there exactly if the names of its
parameters are identifiers. -/
theorem yields_plain_func {head : List Piece} {needs : List (String × Need)}
    (htemplate : IsFuncTemplate template keys head needs) (hkeys : bindings.map Prod.fst = keys)
    {receiver : Option Param} {name : String} {ps rs : List Param}
    (hhead : fillPieces bindings.text head = headText receiver name ⟨ps, rs⟩ ++ " \x7b")
    (hr : ∀ r ∈ receiver, ReceiverOk r) (hn : IsName name) (hps : ∀ p ∈ ps, p.Plain)
    (hrs : ∀ r ∈ rs, r.PlainResult)
    (hneeds : (∀ p ∈ ps, ∀ n ∈ p.name, IsName n) →
      ∀ p ∈ needs, Suits p.2 (bindings.text p.1)) :
    Yields (renderDecl bindings template) (∀ p ∈ ps, ∀ n ∈ p.name, IsName n) Decl.Stable := by
  have hiff := writable_iff_of_plain hps hrs
  have hfunc := yields_func htemplate hkeys hhead hr hn (drafted_of_plain hps hrs)
    fun hw ↦ hneeds (hiff.1 hw)
  exact (hfunc.mono fun d hd ↦ hd.2).congr hiff.symm

/-- The pieces of the head of the constructor of a wrapper: `name` are those of its name after
`New`, `tail` those of the parameters after the wrapped value, and `type` those of the name of the
struct. -/
def constructorHead (name tail type : List Piece) : List Piece :=
  .literal "func New" :: (name ++ .literal "(" :: .placeholder "Field" :: .literal " " ::
    .placeholder "Iface" :: (tail ++ .literal ") *" :: (type ++ [.literal " \x7b"])))

/-- A list with a first text, as the texts after it with a comma in front of each. -/
theorem commaSeparated_cons (t : String) (ts : List String) :
    commaSeparated (t :: ts) = t ++ String.join (ts.map (", " ++ ·)) := by
  induction ts generalizing t with
  | nil => simp [commaSeparated]
  | cons u us ih =>
    rw [commaSeparated, String.intercalate_cons_cons, ← commaSeparated, ih]
    simp [← String.toList_inj]

/-- The head of a constructor is that of a function. -/
theorem fillPieces_constructorHead {value : String → String} {ps tail type : List Piece}
    {name field struct : String} {iface : Shape} {extra : List Param}
    (hname : fillPieces value ps = name) (hfield : value "Field" = field)
    (hiface : value "Iface" = iface.text)
    (htail : fillPieces value tail = String.join (extra.map fun p ↦ ", " ++ p.text))
    (htype : fillPieces value type = struct) :
    fillPieces value (constructorHead ps tail type) =
      headText none ("New" ++ name) ⟨⟨some field, iface, false⟩ :: extra,
        [.unnamed (.pointer (.named none struct))]⟩ ++ " \x7b" := by
  have hextra : commaSeparated ((⟨some field, iface, false⟩ :: extra).map ParamOf.text) =
      field ++ " " ++ iface.text ++ String.join (extra.map fun p ↦ ", " ++ p.text) := by
    rw [List.map_cons, commaSeparated_cons, List.map_map]
    simp [ParamOf.text, Function.comp_def]
  simp only [headText, SignatureOf.text, paramListText, hextra]
  simp [constructorHead, fillPieces_append, hname, hfield, hiface, htail, htype, resultListText,
    resultList, standsAlone, ParamOf.unnamed, commaSeparated, ParamOf.text, Shape.text,
    ← String.toList_inj]

/-- **The constructor of a wrapper** is there exactly if the name of its parameter is an
identifier. -/
theorem yields_constructor {ps tail type : List Piece} {needs : List (String × Need)}
    (htemplate : IsFuncTemplate template keys (constructorHead ps tail type) needs)
    (hkeys : bindings.map Prod.fst = keys) {name field struct : String} {iface : Shape}
    {extra : List Param} (hname : fillPieces bindings.text ps = name)
    (hfield : bindings.text "Field" = field) (hiface : bindings.text "Iface" = iface.text)
    (htail : fillPieces bindings.text tail = String.join (extra.map fun p ↦ ", " ++ p.text))
    (htype : fillPieces bindings.text type = struct) (hn : IsName ("New" ++ name))
    (hstruct : IsName struct) (hlabel : IsLabel field) (hlegible : iface.Legible)
    (hextra : ∀ p ∈ extra, p.IsFixed)
    (hneeds : IsName field → ∀ p ∈ needs, Suits p.2 (bindings.text p.1)) :
    Yields (renderDecl bindings template) (IsName field) Decl.Stable := by
  have hiff : (∀ p ∈ (⟨some field, iface, false⟩ : Param) :: extra, ∀ n ∈ p.name, IsName n) ↔
      IsName field := by
    rw [List.forall_mem_cons]
    refine ⟨fun h ↦ h.1 field rfl, fun h ↦ ⟨fun n hn ↦ Option.some.inj hn ▸ h, fun p hp ↦ ?_⟩⟩
    obtain ⟨n, hn, hname⟩ := (hextra p hp).exists_isName
    exact fun n' hn' ↦ Option.some.inj (hn.symm.trans hn') ▸ hname
  refine (yields_plain_func htemplate hkeys
    (fillPieces_constructorHead hname hfield hiface htail htype) (by simp) hn
    (List.forall_mem_cons.2 ⟨⟨⟨field, rfl, hlabel⟩, hlegible⟩, fun p hp ↦ (hextra p hp).plain⟩)
    (List.forall_mem_singleton.2 (plainResult_pointer hstruct)) fun h ↦
      hneeds (hiff.1 h)).congr hiff.symm

end Parts

/-! ### Methods -/

/-- Expressions with commas between them are a phrase. -/
theorem isPhrase_exprs {es : List Expr} (h : ∀ e ∈ es, IsPhrase e.text) :
    IsPhrase (Value.exprs es).render := by
  refine isPhrase_commaSeparated fun t ht ↦ ?_
  simp only [List.map_map, List.mem_map] at ht
  obtain ⟨e, he, rfl⟩ := ht
  exact h e he

/-- A parameter is a phrase. -/
theorem isPhrase_param {p : Param} (hn : ∀ n ∈ p.name, IsName n) (hs : p.shape.Proper) :
    IsPhrase p.text :=
  ⟨p.atoms, p.atomsText_atoms, phrase_param hn (Shape.phrase_atoms hs)⟩

/-- Parameters with commas between them are a phrase. -/
theorem isPhrase_params {ps : List Param} (h : ∀ p ∈ ps, IsPhrase p.text) :
    IsPhrase (Value.params ps).render := by
  refine isPhrase_commaSeparated fun t ht ↦ ?_
  simp only [List.map_map, List.mem_map] at ht
  obtain ⟨p, hp, rfl⟩ := ht
  exact h p hp

/-- A result list is a phrase. -/
theorem isPhrase_resultListText {rs : List Param}
    (h : ∀ r ∈ rs, r.shape.Proper ∧ r.name = none) : IsPhrase (resultListText rs) := by
  refine ⟨_, atomsText_resultListAtoms fun r _ ↦ r.atomsText_atoms,
    phrase_resultListAtoms fun r hr ↦ phrase_param ?_ (Shape.phrase_atoms (h r hr).1)⟩
  rw [(h r hr).2]
  simp

/-- The receiver of a method of a struct. -/
def selfOf (receiver name : String) : Param := ⟨some receiver, .pointer (.named none name), false⟩

theorem receiverOk_selfOf {receiver name : String} (hr : IsName receiver) (hn : IsName name) :
    ReceiverOk (selfOf receiver name) :=
  ⟨fun _ h ↦ Option.some.inj h ▸ hr, (plainResult_pointer hn).legible.proper,
    (plainResult_pointer hn).legible.readable⟩

/-- The declaration is the given method of a struct, with types as they are read. -/
def IsMethodOf (receiver name : String) (m : Method) (d : Decl) : Prop :=
  ∃ body, d = .func ⟨some ⟨some receiver, .pointer (.ofIdent name), false⟩, m.name,
    m.signature.reread, body⟩

/-- The pieces of the head of a method, where those in front of its name are given. -/
def methodHead (lead : List Piece) : List Piece :=
  lead ++ [.placeholder "Method", .placeholder "Signature", .literal " \x7b"]

theorem fillPieces_methodHead {value : String → String} {lead : List Piece}
    {receiver name : String}
    (hlead : fillPieces value lead = "func (" ++ receiver ++ " *" ++ name ++ ") ") {m : Method}
    (hm : value "Method" = m.name) (hs : value "Signature" = m.signature.text) :
    fillPieces value (methodHead lead) =
      headText (some (selfOf receiver name)) m.name m.signature ++ " \x7b" := by
  rw [methodHead, fillPieces_append, hlead]
  simp [hm, hs, headText, selfOf, ParamOf.text, Shape.text, ← String.toList_inj]

/-- **A method of a wrapper** is there exactly if its signature can be written. -/
theorem yields_method {template : String} {keys : List String} {lead : List Piece}
    {needs : List (String × Need)}
    (htemplate : IsFuncTemplate template keys (methodHead lead) needs) {bindings : Bindings}
    (hkeys : bindings.map Prod.fst = keys) {receiver name : String} {m : Method}
    (hlead : fillPieces bindings.text lead = "func (" ++ receiver ++ " *" ++ name ++ ") ")
    (hmethod : bindings.text "Method" = m.name)
    (hsignature : bindings.text "Signature" = m.signature.text)
    (hr : IsName receiver) (hn : IsName name) (hm : IsName m.name) (hs : m.signature.Drafted)
    (hneeds : m.signature.Writable → ∀ p ∈ needs, Suits p.2 (bindings.text p.1)) :
    Yields (renderDecl bindings template) m.signature.Writable fun d ↦
      IsMethodOf receiver name m d ∧ d.Stable :=
  yields_func htemplate hkeys (fillPieces_methodHead hlead hmethod hsignature)
    (fun _ h ↦ Option.some.inj h ▸ receiverOk_selfOf hr hn) hm hs hneeds

/-! ### Whole wrappers -/

/-- **The declarations of a wrapper**: each is read as itself, there is a struct of the given name,
and the last ones are its methods in order. -/
structure Wraps (receiver name : String) (methods : List Method) (ds : List Decl) : Prop where
  /-- Each of them is read as itself. -/
  stable : ∀ d ∈ ds, d.Stable
  /-- There is the struct. -/
  struct : ∃ fields, .type ⟨name, .struct fields⟩ ∈ ds
  /-- The last ones are the methods. -/
  methods : ∃ front rear, ds = front ++ rear ∧ List.Forall₂ (IsMethodOf receiver name) methods rear

section Wraps

variable {receiver name : String} {ms : List Method} {prepared : Method → Method}

/-- The struct, other declarations and the methods make up a wrapper. -/
theorem wraps_append {front rear : List Decl} (hfront : ∀ d ∈ front, d.Stable)
    (hstruct : ∃ fields, .type ⟨name, .struct fields⟩ ∈ front)
    (hrear : List.Forall₂ (fun m d ↦ IsMethodOf receiver name (prepared m) d ∧ d.Stable) ms rear) :
    Wraps receiver name (ms.map prepared) (front ++ rear) where
  stable d hd := by
    rcases List.mem_append.1 hd with hd | hd
    · exact hfront d hd
    · obtain ⟨m, -, -, hstable⟩ := exists_of_mem_right hrear hd
      exact hstable
  struct := by
    obtain ⟨fields, hmem⟩ := hstruct
    exact ⟨fields, List.mem_append_left _ hmem⟩
  methods := ⟨front, rear, rfl,
    List.forall₂_map_left_iff.2 (hrear.imp fun _ _ h ↦ h.1)⟩

/-- A struct, a constructor and what comes after them, where the first two are there under the same
condition. -/
theorem yields_struct_constructor (name : String) {α : Type} {struct constructor : Traced Decl}
    {rest : Decl → Decl → Traced α} {c c' : Prop} {post : α → Prop}
    (hstruct : Yields struct c fun d ↦ (∃ fields, d = .type ⟨name, .struct fields⟩) ∧ d.Stable)
    (hconstructor : Yields constructor c Decl.Stable)
    (hrest : ∀ fields k, c → (Decl.type ⟨name, .struct fields⟩).Stable → k.Stable →
      Yields (rest (.type ⟨name, .struct fields⟩) k) c' post) :
    Yields (do
      let struct ← struct
      let constructor ← constructor
      rest struct constructor) (c ∧ c') post := by
  refine (hstruct.bind fun s _ hs ↦ hconstructor.bind fun k hc hk ↦ ?_).congr and_self_left.symm
  obtain ⟨⟨fields, rfl⟩, hstable⟩ := hs
  exact hrest fields k hc hstable hk

/-- **A struct, a constructor and methods** are there exactly if the first two are and the
signature of each method can be written. -/
theorem yields_wrapper {struct constructor : Traced Decl} {method : Method → Traced Decl}
    {c : Prop}
    (hstruct : Yields struct c fun d ↦ (∃ fields, d = .type ⟨name, .struct fields⟩) ∧ d.Stable)
    (hconstructor : Yields constructor c Decl.Stable)
    (hmethod : c → ∀ m ∈ ms, Yields (method m) (prepared m).signature.Writable fun d ↦
      IsMethodOf receiver name (prepared m) d ∧ d.Stable) :
    Yields (do
      let struct ← struct
      let constructor ← constructor
      let methods ← ms.mapM method
      return struct :: constructor :: methods)
      (c ∧ ∀ m ∈ ms, (prepared m).signature.Writable)
      (Wraps receiver name (ms.map prepared)) := by
  refine yields_struct_constructor name hstruct hconstructor fun fields k hc hs hk ↦ ?_
  refine (Yields.mapM (hmethod hc)).bind_true fun ds _ hds ↦ yields_pure ?_
  exact @wraps_append _ _ _ _ [_, k] _
    (List.forall_mem_cons.2 ⟨hs, List.forall_mem_singleton.2 hk⟩)
    ⟨fields, List.mem_cons_self ..⟩ hds

end Wraps

end GoDecorator
