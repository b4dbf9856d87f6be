import GoDecorator.Proofs.Decl.Structs
import GoDecorator.Proofs.Template.Marks

/-!
# Declarations written by templates

A pattern fills in templates and reads the results back, one declaration after the other. Whether
that works depends on the input: `Yields x cond post` says that `x` has an answer with the property
`post` **exactly if `cond` holds**, and that it ends with a fault of a template otherwise. It never
says that `x` crashes or rejects the input. The rules for it follow the way in which patterns put
their steps together, and the condition of a whole is made from those of its parts.

## Templates

The steps are the templates. `IsFuncTemplate` and `IsWholeTemplate` say of which form a template is:
a head and the marks of a body, or nothing but pieces that are known. Both are tested once for each
template, and `yields_func` and `yields_struct` say what comes of filling in a template of that
form: a function, if its signature can be written, and a struct, if its fields can.

The test of a template is on its signs and does not see the values. All that has to be said of these
is what is needed of each hole, and what the head comes to.

## Stable declarations

What comes of a template is moreover **stable**: its printed form is read as itself. Its types were
read once already, and what is read is read as itself again; the colons in its body are tight, which
is what the printer asks of the lines that it lines up (`stable_func`).
-/

namespace GoDecorator

open Token

/-! ### Answers and faults -/

/-- There is an answer with the given property exactly if the condition holds, and a fault of a
template if it does not. -/
structure Yields {α : Type} (x : Traced α) (cond : Prop) (post : α → Prop) : Prop where
  /-- The answer. -/
  answer : cond → ∃ a, x.outcome = .ok a ∧ post a
  /-- The fault. -/
  fault : ¬ cond → ∃ e, x.outcome = .error (.error e) ∧ e.tier = .template

section Yields

variable {α β : Type} {x : Traced α} {f : α → Traced β} {c c' : Prop} {p : α → Prop}
  {q : β → Prop}

theorem yields_of_outcome {a : α} (h : x.outcome = .ok a) (ha : p a) : Yields x True p :=
  ⟨fun _ ↦ ⟨a, h, ha⟩, fun hn ↦ absurd trivial hn⟩

theorem yields_pure {a : α} (ha : p a) : Yields (pure a) True p :=
  yields_of_outcome (Traced.outcome_pure a) ha

/-- The same under an equivalent condition. -/
theorem Yields.congr (h : Yields x c p) (hc : c' ↔ c) : Yields x c' p :=
  ⟨fun h' ↦ h.answer (hc.1 h'), fun h' ↦ h.fault fun hn ↦ h' (hc.2 hn)⟩

theorem Yields.of_outcome {y : Traced α} (h : Yields y c p) (hxy : x.outcome = y.outcome) :
    Yields x c p :=
  ⟨fun hc ↦ hxy ▸ h.answer hc, fun hc ↦ hxy ▸ h.fault hc⟩

theorem Yields.mono {p' : α → Prop} (h : Yields x c p) (hp : ∀ a, p a → p' a) : Yields x c p' := by
  refine ⟨fun hc ↦ ?_, h.fault⟩
  obtain ⟨a, hx, ha⟩ := h.answer hc
  exact ⟨a, hx, hp a ha⟩

/-- What has been answered has the property. -/
theorem Yields.of_answer (h : Yields x c p) {a : α} (hx : x.outcome = .ok a) : p a := by
  by_cases hc : c
  · obtain ⟨b, hb, hp⟩ := h.answer hc
    exact Except.ok.inj (hb.symm.trans hx) ▸ hp
  · obtain ⟨e, he, -⟩ := h.fault hc
    rw [he] at hx
    cases hx

/-- What has been answered was asked for under the condition. -/
theorem Yields.cond_of_answer (h : Yields x c p) {a : α} (hx : x.outcome = .ok a) : c := by
  by_contra hc
  obtain ⟨e, he, -⟩ := h.fault hc
  rw [he] at hx
  cases hx

/-- Every answer there can be has a further property. -/
theorem Yields.of_forall {p' : α → Prop} (h : Yields x c p)
    (hp : ∀ a, x.outcome = .ok a → p' a) : Yields x c p' := by
  refine ⟨fun hc ↦ ?_, h.fault⟩
  obtain ⟨a, hx, -⟩ := h.answer hc
  exact ⟨a, hx, hp a hx⟩

/-- A first step that cannot fail leaves the condition to the second one. -/
theorem Yields.after {a : α} (h : x.outcome = .ok a) (hf : Yields (f a) c q) :
    Yields (x >>= f) c q := by
  have hbind : (x >>= f).outcome = (f a).outcome := by
    rw [Traced.outcome_bind, h]
    rfl
  exact ⟨fun hc ↦ hbind ▸ hf.answer hc, fun hc ↦ hbind ▸ hf.fault hc⟩

/-- **One step after the other.** The second step may rely on the condition of the first one. -/
theorem Yields.bind (h : Yields x c p) (hf : ∀ a, c → p a → Yields (f a) c' q) :
    Yields (x >>= f) (c ∧ c') q := by
  by_cases hc : c
  · obtain ⟨a, hx, ha⟩ := h.answer hc
    exact (Yields.after hx (hf a hc ha)).congr (and_iff_right hc)
  · obtain ⟨e, hx, he⟩ := h.fault hc
    refine ⟨fun hcc ↦ absurd hcc.1 hc, fun _ ↦ ⟨e, ?_, he⟩⟩
    rw [Traced.outcome_bind, hx]
    rfl

/-- A second step in whose way nothing stands. -/
theorem Yields.bind_true (h : Yields x c p) (hf : ∀ a, c → p a → Yields (f a) True q) :
    Yields (x >>= f) c q :=
  (h.bind hf).congr (iff_of_eq (and_true c)).symm

/-- **The same step for each element of a list.** -/
theorem Yields.mapM {f : α → Traced β} {cond : α → Prop} {post : α → β → Prop} {xs : List α}
    (h : ∀ a ∈ xs, Yields (f a) (cond a) (post a)) :
    Yields (xs.mapM f) (∀ a ∈ xs, cond a) (List.Forall₂ post xs) := by
  induction xs with
  | nil => exact (yields_pure List.Forall₂.nil).congr (by simp)
  | cons a xs ih =>
    rw [List.mapM_cons]
    have hrest := ih fun b hb ↦ h b (List.mem_cons_of_mem _ hb)
    refine ((h a (List.mem_cons_self ..)).bind fun b _ hb ↦ hrest.bind fun bs _ hbs ↦
      yields_pure (List.Forall₂.cons hb hbs)).congr ?_
    rw [List.forall_mem_cons, and_true]

end Yields

/-! ### Stable declarations -/

/-- The printed form of the declaration is read as itself. -/
def Decl.Stable (d : Decl) : Prop := Writes d.text d

/-- **A function that is read is stable.** -/
theorem stable_func {receiver : Option Param} {name : String} {sig : Signature} {body : List Atom}
    (hr : ∀ r ∈ receiver, ReceiverOk r) (hn : IsName name) (hs : (Shape.function sig).Proper)
    (hread : (Shape.function sig).Readable) (hb : Body body) :
    (Decl.func ⟨receiver.map ParamOf.reread, name, sig.reread, .ofAtoms body⟩).Stable := by
  have hsettled : ∀ r ∈ receiver, r.shape.reread.IsSettled := fun r hmem ↦
    Shape.isSettled_reread (hr r hmem).proper (hr r hmem).readable
  refine writes_text_func (fun r' hmem' ↦ ?_) hn ?_ hb.sound_ofAtoms
  · obtain ⟨r, hmem, rfl⟩ := Option.map_eq_some_iff.1 hmem'
    refine ⟨⟨(hr r hmem).names, (hsettled r hmem).1.proper, (hsettled r hmem).2.1⟩, ?_⟩
    show ({ r with shape := r.shape.reread.reread } : Param) = { r with shape := r.shape.reread }
    rw [Shape.reread_of_isSettled (hsettled r hmem)]
  · rw [← Shape.reread_function]
    exact Shape.isSettled_reread hs hread

/-- **A struct with fields that is read is stable.** -/
theorem stable_struct {name : String} (hn : IsName name) {fields : List Field} (hne : fields ≠ [])
    (h : ∀ f ∈ fields, FieldOk f) :
    (Decl.type ⟨name, .struct (fields.map Field.reread)⟩).Stable := by
  refine writes_text_struct hn (by simpa using hne) fun f hf ↦ ?_
  obtain ⟨f, hmem, rfl⟩ := List.mem_map.1 hf
  exact ⟨(h f hmem).name, Shape.isSettled_reread (h f hmem).proper (h f hmem).readable⟩

namespace Template

/-! ### Templates that pass a test -/

/-- The template has holes for the given names, and its signs pass the test. -/
def IsTemplate (template : String) (keys : List String) (test : List Sign → Bool) : Prop :=
  ∃ cs, template = String.ofList cs ∧
    (signsFrom cs).any (fun ss ↦ matchesKeys keys ss && test ss) = true

theorem IsTemplate.exists_text {template : String} {keys : List String} {test : List Sign → Bool}
    (h : IsTemplate template keys test) {bindings : Bindings}
    (hkeys : bindings.map Prod.fst = keys) :
    ∃ ss text, test ss = true ∧ text.toList = fillSigns bindings.text ss ∧
      (renderDecl bindings template).outcome = Decl.read (Text.trim text) := by
  obtain ⟨cs, htemplate, htest⟩ := h
  obtain ⟨ss, hss, htest⟩ := (Option.any_eq_true ..).1 htest
  rw [← hkeys, Bool.and_eq_true] at htest
  obtain ⟨text, htext, hfill⟩ := instantiate_of_matchesKeys htemplate hss htest.1
  exact ⟨ss, text, htest.2, hfill, outcome_renderDecl htext⟩

/-! ### Functions -/

/-- Whether signs are those of a function: a line break, the given pieces up to the opening brace,
a body, the closing brace and a line break. -/
def isFunc (head : List Piece) (needs : List (String × Need)) (ss : List Sign) : Bool :=
  let start := .char '\n' :: head.flatMap Piece.signs
  let inner := (ss.drop start.length).dropLast.dropLast
  let ms := marksOf needs inner.length inner
  decide (ss = start ++ (ms.flatMap Mark.signs ++ [.char '\x7d', .char '\n'])) && checks needs ms

/-- The template is that of a function. Its text up to the opening brace is given by pieces, and the
holes in its body with what may be put into them. -/
def IsFuncTemplate (template : String) (keys : List String) (head : List Piece)
    (needs : List (String × Need)) : Prop :=
  IsTemplate template keys (isFunc head needs)

/-- The marks of the body of a function, as `isFunc` finds them. -/
def bodyMarks (head : List Piece) (needs : List (String × Need)) (ss : List Sign) : List Mark :=
  let inner := (ss.drop (.char '\n' :: head.flatMap Piece.signs).length).dropLast.dropLast
  marksOf needs inner.length inner

/-- **What signs of a function are after they have been filled in.** -/
theorem fillSigns_of_isFunc {head : List Piece} {needs : List (String × Need)} {ss : List Sign}
    (h : isFunc head needs ss = true) (value : String → String) :
    fillSigns value ss = '\n' :: ((fillPieces value head).toList ++
      fillSigns value ((bodyMarks head needs ss).flatMap Mark.signs) ++ ['\x7d', '\n']) := by
  rw [isFunc, Bool.and_eq_true, decide_eq_true_eq] at h
  conv_lhs => rw [h.1]
  simp [toList_fillPieces, bodyMarks]

theorem checks_of_isFunc {head : List Piece} {needs : List (String × Need)} {ss : List Sign}
    (h : isFunc head needs ss = true) : checks needs (bodyMarks head needs ss) = true := by
  rw [isFunc, Bool.and_eq_true] at h
  exact h.2

end Template

open Template

/-- The text of a function without the line breaks around it. -/
theorem trim_func {text : String} {receiver : Option Param} {name : String} {sig : Signature}
    {inner : List Char} (htext : text.toList =
      '\n' :: ((headText receiver name sig ++ " \x7b").toList ++ inner ++ ['\x7d', '\n'])) :
    Text.trim text = headText receiver name sig ++ (" \x7b" ++ String.ofList inner ++ "\x7d") := by
  refine (@trim_framed _ ['\n']
    ((headText receiver name sig ++ " \x7b").toList ++ inner ++ ['\x7d']) ['\n']
    'f' '\x7d' ?_ (by decide) (by decide) ?_ (by decide)
    List.getLast?_concat (by decide)).trans ?_
  · rw [htext]
    simp
  · simp [headText]
  · simp [← String.toList_inj]

/-- **A function with the atoms of a body is read** where its signature can be written. -/
theorem read_func {receiver : Option Param} {name : String} {sig : Signature} {as : List Atom}
    (hr : ∀ r ∈ receiver, ReceiverOk r) (hn : IsName name) (hs : sig.Drafted) (hw : sig.Writable)
    (has : Body as) :
    Decl.read (headText receiver name sig ++
        (" \x7b" ++ String.ofList (atomsText as) ++ "\x7d")) =
      .ok (.func ⟨receiver.map ParamOf.reread, name, sig.reread, .ofAtoms as⟩) := by
  have hwrites := @writes_func _ _ _ _ (String.ofList (atomsText as)) hr hn (hs.proper hw.1) hw.2
    (by simp) (fun _ ↦ Spelled.spelledAt has.spelled) (fun k hk ↦ (has.closed k hk).2) has.balanced
  rw [← read_of_writes hwrites]
  simp [String.append_assoc]

/-- **A function that is read from filled-in signs** is there exactly if its signature can be
written. -/
theorem yields_func_of_signs {text : String} {value : String → String} {head : List Piece}
    {needs : List (String × Need)} {ss : List Sign} (htext : text.toList = fillSigns value ss)
    (hfunc : isFunc head needs ss = true) {receiver : Option Param} {name : String}
    {sig : Signature} (hhead : fillPieces value head = headText receiver name sig ++ " \x7b")
    (hr : ∀ r ∈ receiver, ReceiverOk r) (hn : IsName name) (hs : sig.Drafted)
    (hneeds : sig.Writable → ∀ p ∈ needs, Suits p.2 (value p.1)) :
    Yields (.ofOutcome (Decl.read (Text.trim text))) sig.Writable fun d ↦
      (∃ body, d = .func ⟨receiver.map ParamOf.reread, name, sig.reread, body⟩) ∧ d.Stable := by
  have htrim := trim_func (htext.trans (hhead ▸ fillSigns_of_isFunc hfunc value))
  refine ⟨fun hw ↦ ?_, fun hw ↦ ?_⟩
  · obtain ⟨as, has, hatoms⟩ := exists_body_of_checks (checks_of_isFunc hfunc) (hneeds hw)
    refine ⟨_, ?_, ⟨_, rfl⟩, stable_func hr hn (hs.proper hw.1) hw.2 has⟩
    rw [Traced.outcome_ofOutcome, htrim, ← hatoms, read_func hr hn hs hw has]
  · obtain ⟨e, he⟩ := @read_of_not_writable _ _ _ (" \x7b" ++ String.ofList _ ++ "\x7d")
      hr hn hs hw (by simp)
    exact ⟨_, htrim ▸ he, rfl⟩

/-- **A template of a function** comes to a function exactly if its signature can be written. -/
theorem yields_func {template : String} {keys : List String} {head : List Piece}
    {needs : List (String × Need)} (htemplate : IsFuncTemplate template keys head needs)
    {bindings : Bindings} (hkeys : bindings.map Prod.fst = keys) {receiver : Option Param}
    {name : String} {sig : Signature}
    (hhead : fillPieces bindings.text head = headText receiver name sig ++ " \x7b")
    (hr : ∀ r ∈ receiver, ReceiverOk r) (hn : IsName name) (hs : sig.Drafted)
    (hneeds : sig.Writable → ∀ p ∈ needs, Suits p.2 (bindings.text p.1)) :
    Yields (renderDecl bindings template) sig.Writable fun d ↦
      (∃ body, d = .func ⟨receiver.map ParamOf.reread, name, sig.reread, body⟩) ∧ d.Stable := by
  obtain ⟨ss, text, htest, htext, houtcome⟩ := IsTemplate.exists_text htemplate hkeys
  exact (yields_func_of_signs htext htest hhead hr hn hs hneeds).of_outcome houtcome

/-! ### Structs -/

/-- The template is that of a declaration without a body, given by pieces. -/
def Template.IsWholeTemplate (template : String) (keys : List String) (frame : List Char)
    (whole : List Piece) : Prop :=
  IsTemplate template keys fun ss ↦
    decide (ss = charSigns frame ++ (whole.flatMap Piece.signs ++ charSigns frame))

/-- The declaration of a template without a body is read from its pieces. -/
theorem outcome_renderDecl_of_isWholeTemplate {template : String} {keys : List String}
    {frame : List Char} {whole : List Piece}
    (htemplate : IsWholeTemplate template keys frame whole) {bindings : Bindings}
    (hkeys : bindings.map Prod.fst = keys) (hframe : ∀ c ∈ frame, Text.isBlank c = true)
    {text : String} (hfill : fillPieces bindings.text whole = "type " ++ text ++ "\x7d") :
    (renderDecl bindings template).outcome = Decl.read ("type " ++ text ++ "\x7d") := by
  obtain ⟨ss, filled, htest, hfilled, houtcome⟩ := IsTemplate.exists_text htemplate hkeys
  obtain rfl := of_decide_eq_true htest
  rw [houtcome, @trim_framed _ frame (fillPieces bindings.text whole).toList frame 't' '\x7d'
      _ hframe hframe _ (by decide) _ (by decide),
    String.ofList_toList, hfill]
  · rw [hfilled]
    simp [toList_fillPieces]
  · rw [hfill]
    simp
  · rw [hfill, String.toList_append]
    exact List.getLast?_concat

/-- **A template of a struct** comes to a struct exactly if its fields can be written. -/
theorem yields_struct {template : String} {keys : List String} {whole : List Piece}
    (htemplate : IsWholeTemplate template keys ['\n'] whole) {bindings : Bindings}
    (hkeys : bindings.map Prod.fst = keys) {name : String} {fields : List Field}
    (hfill : fillPieces bindings.text whole = structText 0 name fields) (hn : IsName name)
    (hne : fields ≠ []) (h : ∀ f ∈ fields, IsLabel f.name ∧ f.shape.Proper) :
    Yields (renderDecl bindings template) (∀ f ∈ fields, IsName f.name ∧ f.shape.Readable) fun d ↦
      d = .type ⟨name, .struct (fields.map Field.reread)⟩ ∧ d.Stable := by
  have houtcome := @outcome_renderDecl_of_isWholeTemplate _ _ _ _ htemplate _ hkeys (by decide)
    (name ++ " struct \x7b\n" ++ String.join (fields.map (Field.text 0)))
    (by rw [hfill, structText]; simp [String.append_assoc])
  have htext : "type " ++ (name ++ " struct \x7b\n" ++ String.join (fields.map (Field.text 0))) ++
      "\x7d" = structText 0 name fields := by
    simp [structText, String.append_assoc]
  rw [htext] at houtcome
  refine ⟨fun hw ↦ ?_, fun hw ↦ ?_⟩
  · have hok : ∀ f ∈ fields, FieldOk f := fun f hf ↦ ⟨(hw f hf).1, (h f hf).2, (hw f hf).2⟩
    exact ⟨_, houtcome.trans (read_of_writes (writes_struct hn hok 0)), rfl,
      stable_struct hn hne hok⟩
  · obtain ⟨e, he⟩ := read_struct_of_not_writable hn h hw 0
    exact ⟨_, houtcome.trans he, rfl⟩

end GoDecorator
