import GoDecorator.Proofs.Token.Names
import GoDecorator.Shape.Basic

/-!
# The parts of a shape, and the shape that its text is read as

A condition on a shape is mostly a condition on each of its parts: on the names it mentions, on the
lists of parameters in it, on a channel and its element. `Shape.parts` lists the parts of a shape,
through the parameters and results of function types, and `Shape.Everywhere` is a condition on all
of them. Being a condition on the members of a list, it is decidable where the condition is, and it
is opened by one lemma for each constructor (`everywhere_pointer` and so on).

## Conditions

* `Shape.Proper`: the names are identifiers, and the lists are all named or all unnamed. Generated
  shapes are proper.
* `Shape.WellFormed`: a name that stands for another kind of type is not kept as a name, either.
  Shapes that were read are well-formed.
* `Shape.Readable`: no function type in the shape has a lone variadic result.
* `Shape.IsSettled`: the text of the shape is read as the shape.

## What the text of a shape is read as

The written form of a shape has no parentheses around types, so **it is not always read as the shape
it was written for**. Two forms go wrong. After `chan` an arrow is taken as the direction of that
channel, so a channel of receive-only channels is read as a send-only channel of channels
(`Shape.isTurned`, `Shape.afterChan`). And a result list that is one variadic entry without a name
is written without parentheses, where no dots can stand (`Shape.isLoneVariadic`).

`Shape.reread` is what the text of a shape is read as, apart from the second form. Its values are
settled: they have neither of the forms and are read as themselves (`reread_of_isSettled`,
`isSettled_reread`). Nothing in this module is about the parser; that its answer is `Shape.reread`
is proved where written types are read.
-/

namespace GoDecorator

open Token (IsName)

/-- All parameters of the list have names, or none has. -/
def IsUniform (ps : List Param) : Prop :=
  (∀ p ∈ ps, p.name.isSome = true) ∨ ∀ p ∈ ps, p.name = none

namespace Shape

/-! ### Parts -/

mutual

/-- The shape and all shapes inside it. -/
def parts : Shape → List Shape
  | .primitive p => [.primitive p]
  | .pointer s => .pointer s :: parts s
  | .named q n => [.named q n]
  | .slice s => .slice s :: parts s
  | .map k v => .map k v :: (parts k ++ parts v)
  | .function ⟨ps, rs⟩ => .function ⟨ps, rs⟩ :: (partsOfParams ps ++ partsOfParams rs)
  | .context => [.context]
  | .any => [.any]
  | .channel d s => .channel d s :: parts s
  | .emptyStruct => [.emptyStruct]

/-- The shapes inside parameters. -/
def partsOfParams : List (ParamOf Shape) → List Shape
  | [] => []
  | ⟨_, s, _⟩ :: ps => parts s ++ partsOfParams ps

end

/-- The parts inside parameters are those of their types. -/
theorem mem_partsOfParams {t : Shape} {ps : List Param} :
    t ∈ partsOfParams ps ↔ ∃ p ∈ ps, t ∈ p.shape.parts := by
  induction ps with
  | nil => simp [partsOfParams]
  | cons p ps ih => simp [partsOfParams, ih]

/-- A condition on the shape and on all shapes inside it. -/
def Everywhere (P : Shape → Prop) (s : Shape) : Prop := ∀ t ∈ s.parts, P t

instance {P : Shape → Prop} [DecidablePred P] (s : Shape) : Decidable (s.Everywhere P) :=
  inferInstanceAs (Decidable (∀ t ∈ s.parts, P t))

section Everywhere

variable {P Q : Shape → Prop}

/-- A condition on all parts may be weakened part by part. -/
theorem Everywhere.mono {s : Shape} (h : s.Everywhere P) (hpq : ∀ t, P t → Q t) :
    s.Everywhere Q := fun t ht ↦ hpq t (h t ht)

@[simp] theorem everywhere_primitive {p : Primitive} :
    (primitive p).Everywhere P ↔ P (.primitive p) := List.forall_mem_singleton

@[simp] theorem everywhere_pointer {s : Shape} :
    (pointer s).Everywhere P ↔ P (.pointer s) ∧ s.Everywhere P := List.forall_mem_cons

@[simp] theorem everywhere_named {q : Option String} {n : String} :
    (named q n).Everywhere P ↔ P (.named q n) := List.forall_mem_singleton

@[simp] theorem everywhere_slice {s : Shape} :
    (slice s).Everywhere P ↔ P (.slice s) ∧ s.Everywhere P := List.forall_mem_cons

@[simp] theorem everywhere_map {k v : Shape} :
    (map k v).Everywhere P ↔ P (.map k v) ∧ k.Everywhere P ∧ v.Everywhere P :=
  List.forall_mem_cons.trans (and_congr_right fun _ ↦ List.forall_mem_append)

/-- A function type has the types of its parameters and results inside it. -/
@[simp] theorem everywhere_function {ps rs : List Param} :
    (function ⟨ps, rs⟩).Everywhere P ↔ P (.function ⟨ps, rs⟩) ∧
      (∀ p ∈ ps, p.shape.Everywhere P) ∧ ∀ r ∈ rs, r.shape.Everywhere P := by
  constructor
  · intro h
    refine ⟨h _ (List.mem_cons_self ..), fun p hp t ht ↦ h t ?_, fun r hr t ht ↦ h t ?_⟩
    · exact List.mem_cons_of_mem _ (List.mem_append_left _ (mem_partsOfParams.2 ⟨p, hp, ht⟩))
    · exact List.mem_cons_of_mem _ (List.mem_append_right _ (mem_partsOfParams.2 ⟨r, hr, ht⟩))
  · rintro ⟨h, hps, hrs⟩ t ht
    rw [parts, List.mem_cons, List.mem_append, mem_partsOfParams, mem_partsOfParams] at ht
    rcases ht with rfl | ⟨p, hp, ht⟩ | ⟨r, hr, ht⟩
    · exact h
    · exact hps p hp t ht
    · exact hrs r hr t ht

@[simp] theorem everywhere_context : context.Everywhere P ↔ P .context := List.forall_mem_singleton

@[simp] theorem everywhere_any : any.Everywhere P ↔ P .any := List.forall_mem_singleton

@[simp] theorem everywhere_channel {d : Direction} {s : Shape} :
    (channel d s).Everywhere P ↔ P (.channel d s) ∧ s.Everywhere P := List.forall_mem_cons

@[simp] theorem everywhere_emptyStruct : emptyStruct.Everywhere P ↔ P .emptyStruct :=
  List.forall_mem_singleton

end Everywhere

/-! ### Conditions on one part -/

/-- The names of the part itself are identifiers, and its lists of parameters and results are each
all named or all unnamed. -/
def HasNames : Shape → Prop
  | .named q n => (∀ x ∈ q, IsName x) ∧ IsName n
  | .function ⟨ps, rs⟩ =>
    IsUniform ps ∧ IsUniform rs ∧ ∀ p ∈ ps ++ rs, ∀ n ∈ p.name, IsName n
  | _ => True

instance (s : Shape) : Decidable s.HasNames :=
  match s with
  | .named q n => inferInstanceAs (Decidable ((∀ x ∈ q, IsName x) ∧ IsName n))
  | .function ⟨ps, rs⟩ =>
    inferInstanceAs (Decidable (((∀ p ∈ ps, p.name.isSome = true) ∨ ∀ p ∈ ps, p.name = none) ∧
      ((∀ r ∈ rs, r.name.isSome = true) ∨ ∀ r ∈ rs, r.name = none) ∧
      ∀ p ∈ ps ++ rs, ∀ n ∈ p.name, IsName n))
  | .primitive _ | .pointer _ | .slice _ | .map _ _ | .context | .any | .channel _ _ |
    .emptyStruct => .isTrue trivial

/-- A name that stands for a type of its own kind is not kept as a name. -/
def IsCanonical : Shape → Prop
  | .named none n => n ≠ "any" ∧ Primitive.ofText? n = none
  | .named (some q) n => ¬ (q = "context" ∧ n = "Context")
  | _ => True

instance (s : Shape) : Decidable s.IsCanonical :=
  match s with
  | .named none n => inferInstanceAs (Decidable (n ≠ "any" ∧ Primitive.ofText? n = none))
  | .named (some q) n => inferInstanceAs (Decidable (¬ (q = "context" ∧ n = "Context")))
  | .primitive _ | .pointer _ | .slice _ | .map _ _ | .function _ | .context | .any |
    .channel _ _ | .emptyStruct => .isTrue trivial

/-- A function type whose results are one variadic entry without a name. -/
def isLoneVariadic : Shape → Bool
  | .function ⟨_, [⟨none, _, true⟩]⟩ => true
  | _ => false

/-- A channel for both directions whose elements are receive-only channels. -/
def isTurned : Shape → Bool
  | .channel .both (.channel .receive _) => true
  | _ => false

/-- **The names of a shape are identifiers** and its lists are uniform. -/
def Proper (s : Shape) : Prop := s.Everywhere HasNames

/-- **A shape as the parser makes it.** -/
def WellFormed (s : Shape) : Prop := s.Everywhere fun t ↦ t.HasNames ∧ t.IsCanonical

instance (s : Shape) : Decidable s.WellFormed :=
  inferInstanceAs (Decidable (s.Everywhere fun t ↦ t.HasNames ∧ t.IsCanonical))

/-- The text of the shape can be read: there is no lone variadic result in it. -/
def Readable (s : Shape) : Prop := s.Everywhere fun t ↦ t.isLoneVariadic = false

/-- **A shape that its text is read as.** -/
def IsSettled (s : Shape) : Prop :=
  s.WellFormed ∧ s.Readable ∧ s.Everywhere fun t ↦ t.isTurned = false

/-- Well-formed shapes are proper. -/
theorem WellFormed.proper {s : Shape} (h : s.WellFormed) : s.Proper := h.mono fun _ ht ↦ ht.1

/-! ### What the text of a shape is read as -/

/-- What is read after `chan` where the text of the given shape follows: an arrow belongs to the
channel that was begun. -/
def afterChan : Shape → Shape
  | .channel .receive s => .channel .send s.afterChan
  | s => .channel .both s

mutual

/-- What the text of a shape is read as. -/
def reread : Shape → Shape
  | .primitive p => .primitive p
  | .pointer s => .pointer (reread s)
  | .named none n => .ofIdent n
  | .named (some q) n => .ofQualified q n
  | .slice s => .slice (reread s)
  | .map k v => .map (reread k) (reread v)
  | .function ⟨ps, rs⟩ => .function ⟨rereadParams ps, rereadParams rs⟩
  | .context => .context
  | .any => .any
  | .channel .both s => (reread s).afterChan
  | .channel .send s => .channel .send (reread s)
  | .channel .receive s => .channel .receive (reread s)
  | .emptyStruct => .emptyStruct

/-- What the text of parameters is read as. -/
def rereadParams : List (ParamOf Shape) → List (ParamOf Shape)
  | [] => []
  | ⟨name, s, variadic⟩ :: ps => ⟨name, reread s, variadic⟩ :: rereadParams ps

end

end Shape

/-- What the text of a parameter is read as. -/
def ParamOf.reread (p : Param) : Param := { p with shape := p.shape.reread }

/-- What the text of a signature is read as. -/
def SignatureOf.reread (sig : Signature) : Signature :=
  ⟨sig.params.map ParamOf.reread, sig.results.map ParamOf.reread⟩

namespace Shape

theorem rereadParams_eq_map (ps : List Param) : rereadParams ps = ps.map ParamOf.reread := by
  induction ps with
  | nil => rfl
  | cons p ps ih => simp [rereadParams, ParamOf.reread, ih]

@[simp] theorem reread_function (sig : Signature) :
    (function sig).reread = .function sig.reread := by
  obtain ⟨ps, rs⟩ := sig
  simp [reread, SignatureOf.reread, rereadParams_eq_map]

/-- The name of a predeclared type stands for this type. -/
theorem ofIdent_text (p : Primitive) : ofIdent p.text = .primitive p := by
  have hany : p.text ≠ "any" := by cases p <;> decide
  rw [ofIdent, if_neg hany, Primitive.ofText?_text]

/-- Without an arrow, what follows `chan` is the type of the elements. -/
theorem afterChan_eq_both {s : Shape} (h : ∀ t, s ≠ .channel .receive t) :
    s.afterChan = .channel .both s := by
  unfold afterChan
  split
  · exact absurd rfl (h _)
  · rfl

/-- A shape that is read as a receive-only channel is one. -/
theorem reread_ne_receive {s : Shape} (h : ∀ t, s ≠ .channel .receive t) (t : Shape) :
    s.reread ≠ .channel .receive t := by
  have hafter : ∀ u : Shape, u.afterChan ≠ .channel .receive t := by
    intro u
    unfold afterChan
    split <;> simp
  cases s with
  | named q n =>
    cases q with
    | none =>
      simp only [reread, ofIdent]
      split
      · simp
      · split <;> simp
    | some q =>
      simp only [reread, ofQualified]
      split <;> simp
  | channel d s =>
    cases d with
    | both => exact hafter _
    | send => simp [reread]
    | receive => exact absurd rfl (h s)
  | _ => simp [reread]

/-! ### Settled shapes -/

/-- The names of parameters are not touched by reading. -/
theorem isUniform_map_reread {ps : List Param} (h : IsUniform ps) :
    IsUniform (ps.map ParamOf.reread) := by
  simpa [IsUniform, ParamOf.reread] using h

/-- What a name stands for is well-formed: it is kept as a name only where it is one. -/
theorem wellFormed_ofIdent {n : String} (h : IsName n) : (ofIdent n).WellFormed := by
  unfold ofIdent WellFormed
  split
  · simp [HasNames, IsCanonical]
  · rename_i hany
    split
    · simp [HasNames, IsCanonical]
    · rename_i hnone
      simp [HasNames, IsCanonical, h, hany, hnone]

theorem wellFormed_ofQualified {q n : String} (hq : IsName q) (hn : IsName n) :
    (ofQualified q n).WellFormed := by
  unfold ofQualified WellFormed
  split
  · simp [HasNames, IsCanonical]
  · rename_i hne
    simpa [HasNames, IsCanonical, hq, hn] using hne

/-- A condition that no channel fails holds after `chan` as well. -/
theorem everywhere_afterChan {P : Shape → Prop} {s : Shape} (h : s.Everywhere P)
    (hsend : ∀ t, P (.channel .send t))
    (hboth : ∀ t, (∀ u, t ≠ .channel .receive u) → P (.channel .both t)) :
    s.afterChan.Everywhere P := by
  induction s using Shape.induct with
  | channel d s ih =>
    cases d with
    | receive =>
      rw [afterChan, everywhere_channel]
      exact ⟨hsend _, ih (everywhere_channel.1 h).2⟩
    | both =>
      rw [afterChan_eq_both (by simp), everywhere_channel]
      exact ⟨hboth _ (by simp), h⟩
    | send =>
      rw [afterChan_eq_both (by simp), everywhere_channel]
      exact ⟨hboth _ (by simp), h⟩
  | _ =>
    rw [afterChan_eq_both (by simp), everywhere_channel]
    exact ⟨hboth _ (by simp), h⟩

/-- A condition on all parts passes to what the text is read as, if it does so for each part. -/
theorem everywhere_reread {P Q : Shape → Prop} {s : Shape} (h : s.Everywhere P)
    (hprimitive : ∀ p, Q (.primitive p)) (hpointer : ∀ t, Q (.pointer t))
    (hident : ∀ n, P (.named none n) → (ofIdent n).Everywhere Q)
    (hqualified : ∀ q n, P (.named (some q) n) → (ofQualified q n).Everywhere Q)
    (hslice : ∀ t, Q (.slice t)) (hmap : ∀ k v, Q (.map k v))
    (hfunction : ∀ ps rs, P (.function ⟨ps, rs⟩) →
      Q (.function ⟨ps.map ParamOf.reread, rs.map ParamOf.reread⟩))
    (hcontext : Q .context) (hany : Q .any) (hempty : Q .emptyStruct)
    (hsend : ∀ t, Q (.channel .send t)) (hreceive : ∀ t, Q (.channel .receive t))
    (hboth : ∀ t, (∀ u, t ≠ .channel .receive u) → Q (.channel .both t)) :
    s.reread.Everywhere Q := by
  induction s using Shape.induct with
  | primitive p => exact everywhere_primitive.2 (hprimitive p)
  | pointer s ih => exact everywhere_pointer.2 ⟨hpointer _, ih (everywhere_pointer.1 h).2⟩
  | named q n =>
    cases q with
    | none => exact hident n (everywhere_named.1 h)
    | some q => exact hqualified q n (everywhere_named.1 h)
  | slice s ih => exact everywhere_slice.2 ⟨hslice _, ih (everywhere_slice.1 h).2⟩
  | map k v ihk ihv =>
    obtain ⟨-, hk, hv⟩ := everywhere_map.1 h
    exact everywhere_map.2 ⟨hmap _ _, ihk hk, ihv hv⟩
  | function ps rs ihps ihrs =>
    obtain ⟨hself, hps, hrs⟩ := everywhere_function.1 h
    rw [reread_function, SignatureOf.reread, everywhere_function]
    refine ⟨hfunction ps rs hself, ?_, ?_⟩
    · intro p hp
      obtain ⟨p', hp', rfl⟩ := List.mem_map.1 hp
      exact ihps p' hp' (hps p' hp')
    · intro r hr
      obtain ⟨r', hr', rfl⟩ := List.mem_map.1 hr
      exact ihrs r' hr' (hrs r' hr')
  | context => exact everywhere_context.2 hcontext
  | any => exact everywhere_any.2 hany
  | channel d s ih =>
    have hs := ih (everywhere_channel.1 h).2
    cases d with
    | both => exact everywhere_afterChan hs hsend hboth
    | send => exact everywhere_channel.2 ⟨hsend _, hs⟩
    | receive => exact everywhere_channel.2 ⟨hreceive _, hs⟩
  | emptyStruct => exact everywhere_emptyStruct.2 hempty

/-- What the text of a proper shape is read as is well-formed. -/
theorem wellFormed_reread {s : Shape} (h : s.Proper) : s.reread.WellFormed := by
  refine everywhere_reread h (fun _ ↦ ⟨trivial, trivial⟩) (fun _ ↦ ⟨trivial, trivial⟩)
    (fun n hn ↦ wellFormed_ofIdent hn.2) (fun q n hn ↦ wellFormed_ofQualified (hn.1 q rfl) hn.2)
    (fun _ ↦ ⟨trivial, trivial⟩) (fun _ _ ↦ ⟨trivial, trivial⟩) ?_ ⟨trivial, trivial⟩
    ⟨trivial, trivial⟩ ⟨trivial, trivial⟩ (fun _ ↦ ⟨trivial, trivial⟩) (fun _ ↦ ⟨trivial, trivial⟩)
    (fun _ _ ↦ ⟨trivial, trivial⟩)
  rintro ps rs ⟨hps, hrs, hnames⟩
  refine ⟨⟨isUniform_map_reread hps, isUniform_map_reread hrs, ?_⟩, trivial⟩
  intro p hp
  rw [← List.map_append] at hp
  obtain ⟨p', hp', rfl⟩ := List.mem_map.1 hp
  exact hnames p' hp'

/-- Reading a list does not change how many entries it has, nor their dots. -/
theorem isLoneVariadic_function_reread (ps rs : List Param) :
    isLoneVariadic (.function ⟨ps.map ParamOf.reread, rs.map ParamOf.reread⟩) =
      isLoneVariadic (.function ⟨ps, rs⟩) := by
  rcases rs with _ | ⟨⟨n, s, v⟩, _ | ⟨r, rs⟩⟩
  · rfl
  · cases n <;> cases v <;> rfl
  · simp [isLoneVariadic]

/-- A name stands for the empty interface, for a predeclared type or for itself. -/
theorem everywhere_ofIdent (P : Shape → Prop) (hany : P .any) (hprim : ∀ p, P (.primitive p))
    {n : String} (hnamed : P (.named none n)) : (ofIdent n).Everywhere P := by
  unfold ofIdent
  split
  · exact everywhere_any.2 hany
  · split
    · exact everywhere_primitive.2 (hprim _)
    · exact everywhere_named.2 hnamed

theorem everywhere_ofQualified (P : Shape → Prop) (hcontext : P .context) {q n : String}
    (hnamed : P (.named (some q) n)) : (ofQualified q n).Everywhere P := by
  unfold ofQualified
  split
  · exact everywhere_context.2 hcontext
  · exact everywhere_named.2 hnamed

/-- No lone variadic result comes about by reading. -/
theorem readable_reread {s : Shape} (h : s.Readable) : s.reread.Readable := by
  refine everywhere_reread h (fun _ ↦ rfl) (fun _ ↦ rfl)
    (fun n _ ↦ everywhere_ofIdent (·.isLoneVariadic = false) rfl (fun _ ↦ rfl) rfl)
    (fun q n _ ↦ everywhere_ofQualified (·.isLoneVariadic = false) rfl rfl) (fun _ ↦ rfl)
    (fun _ _ ↦ rfl) ?_ rfl rfl rfl (fun _ ↦ rfl) (fun _ ↦ rfl) (fun _ _ ↦ rfl)
  intro ps rs hself
  rw [isLoneVariadic_function_reread]
  exact hself

/-- No channel is read as one of the form that is turned around. -/
theorem not_isTurned_reread (s : Shape) : s.reread.Everywhere fun t ↦ t.isTurned = false := by
  have htrue : s.Everywhere fun _ ↦ True := fun _ _ ↦ trivial
  refine everywhere_reread htrue (fun _ ↦ rfl) (fun _ ↦ rfl)
    (fun n _ ↦ everywhere_ofIdent (·.isTurned = false) rfl (fun _ ↦ rfl) rfl)
    (fun q n _ ↦ everywhere_ofQualified (·.isTurned = false) rfl rfl) (fun _ ↦ rfl) (fun _ _ ↦ rfl)
    (fun _ _ _ ↦ rfl) rfl rfl rfl (fun _ ↦ rfl) (fun _ ↦ rfl) ?_
  intro t ht
  unfold isTurned
  split
  · rename_i heq
    simp only [channel.injEq, true_and] at heq
    exact absurd heq (ht _)
  · rfl

/-- **What a readable text is read as is settled.** -/
theorem isSettled_reread {s : Shape} (hs : s.Proper) (hr : s.Readable) : s.reread.IsSettled :=
  ⟨wellFormed_reread hs, readable_reread hr, not_isTurned_reread s⟩

/-- **A well-formed shape is read as itself exactly if no channel in it is turned around.** -/
theorem reread_eq_self_iff {s : Shape} (h : s.WellFormed) :
    s.reread = s ↔ s.Everywhere fun t ↦ t.isTurned = false := by
  constructor
  · intro heq
    rw [← heq]
    exact not_isTurned_reread s
  intro hturned
  induction s using Shape.induct with
  | primitive p => rfl
  | pointer s ih =>
    rw [reread, ih (everywhere_pointer.1 h).2 (everywhere_pointer.1 hturned).2]
  | named q n =>
    obtain ⟨-, hcanon⟩ := everywhere_named.1 h
    cases q with
    | none =>
      rw [reread, ofIdent, if_neg hcanon.1, hcanon.2]
    | some q => rw [reread, ofQualified, if_neg hcanon]
  | slice s ih =>
    rw [reread, ih (everywhere_slice.1 h).2 (everywhere_slice.1 hturned).2]
  | map k v ihk ihv =>
    obtain ⟨-, hk, hv⟩ := everywhere_map.1 h
    obtain ⟨-, hk', hv'⟩ := everywhere_map.1 hturned
    rw [reread, ihk hk hk', ihv hv hv']
  | function ps rs ihps ihrs =>
    obtain ⟨-, hps, hrs⟩ := everywhere_function.1 h
    obtain ⟨-, hps', hrs'⟩ := everywhere_function.1 hturned
    have hmap : ∀ qs : List Param, (∀ q ∈ qs, q.shape.reread = q.shape) →
        qs.map ParamOf.reread = qs := by
      intro qs hqs
      refine (List.map_congr_left fun q hq ↦ ?_).trans (List.map_id qs)
      rw [ParamOf.reread, hqs q hq]
      rfl
    rw [reread_function, SignatureOf.reread, hmap ps fun p hp ↦ ihps p hp (hps p hp) (hps' p hp),
      hmap rs fun r hr ↦ ihrs r hr (hrs r hr) (hrs' r hr)]
  | context => rfl
  | any => rfl
  | channel d s ih =>
    obtain ⟨hself, hs'⟩ := everywhere_channel.1 hturned
    have hs := ih (everywhere_channel.1 h).2 hs'
    cases d with
    | both =>
      rw [reread, hs]
      refine afterChan_eq_both ?_
      rintro t rfl
      cases hself
    | send => rw [reread, hs]
    | receive => rw [reread, hs]
  | emptyStruct => rfl

/-- A settled shape is read as itself. -/
theorem reread_of_isSettled {s : Shape} (h : s.IsSettled) : s.reread = s :=
  (reread_eq_self_iff h.1).2 h.2.2

end Shape

end GoDecorator
