import GoDecorator.Proofs.Shape.Signatures

/-!
# Reading written types back

What the parser for types does with the tokens of a written type. There are two cases. **The text of
a readable shape is read as `Shape.reread` of it**, wherever the next token does not go on with a
type (`reads_shapeWithin`). **The text of a shape with a lone variadic result leaves the parser
stuck** in front of the ellipsis (`stuck_shapeWithin`). Together they settle for each type whether
its text can be read, and as what.

## Channels

Both inductions carry a second statement, about the same tokens after a `chan` (`ReadsInside`,
`StuckInside`): there an arrow at the start of the shape is taken as the direction of the channel
before it. So `chan (<-chan T)`, which is written without the parentheses, is read as `chan<- (chan
T)`. For all types that do not start with an arrow the second statement follows from the first one
(`of_alone`).

## The shape of the proofs

`Continues` says of the parser that it goes on as another one after some tokens in front. There is
such a lemma for each form of a type (`continues_star`, `continues_square` and so on). From it each
form has a lemma of its own in `ReadsInside` and in `StuckInside`, and the two inductions only put
these together.

The parser for inner types has a smaller budget in each step, and each step takes a token. So a
budget of the number of tokens is enough, and the same count serves both cases.
-/

namespace GoDecorator

open Token (Kind kinds)

namespace Parser

/-! ### The steps of the parser -/

section Steps

variable {budget : Nat}

/-- A pointer goes on with the type that it points to. -/
theorem continues_star :
    Continues (shapeWithin (budget + 1)) [.star] (fun _ ↦ True) (shapeWithin budget)
      Shape.pointer := by
  intro ts us hts _
  obtain ⟨t, rfl, ht⟩ := List.map_eq_singleton_iff.1 hts
  obtain ⟨_, rfl⟩ := exists_eq_mk ht
  rfl

/-- A slice goes on with the type of its elements. -/
theorem continues_square :
    Continues (shapeWithin (budget + 1)) [.opening .square, .closing .square] (fun _ ↦ True)
      (shapeWithin budget) Shape.slice := by
  intro ts us hts _
  obtain ⟨t, ts, rfl, ht, hts⟩ := List.map_eq_cons_iff.1 hts
  obtain ⟨u, rfl, hu⟩ := List.map_eq_singleton_iff.1 hts
  obtain ⟨_, rfl⟩ := exists_eq_mk ht
  obtain ⟨_, rfl⟩ := exists_eq_mk hu
  rfl

theorem continues_send :
    Continues (shapeWithin (budget + 1)) [.keyword .chan, .arrow] (fun _ ↦ True)
      (shapeWithin budget) (Shape.channel .send) := by
  intro ts us hts _
  obtain ⟨t, ts, rfl, ht, hts⟩ := List.map_eq_cons_iff.1 hts
  obtain ⟨u, rfl, hu⟩ := List.map_eq_singleton_iff.1 hts
  obtain ⟨_, rfl⟩ := exists_eq_mk ht
  obtain ⟨_, rfl⟩ := exists_eq_mk hu
  rfl

/-- A channel for both directions goes on with the type of its elements, unless an arrow comes
next. -/
theorem continues_chan :
    Continues (shapeWithin (budget + 1)) [.keyword .chan] (· ≠ .arrow) (shapeWithin budget)
      (Shape.channel .both) := by
  intro ts us hts hne
  obtain ⟨t, rfl, ht⟩ := List.map_eq_singleton_iff.1 hts
  obtain ⟨_, rfl⟩ := exists_eq_mk ht
  show StateT.run (do
    let direction := if ← accept .arrow then Direction.send else .both
    return Shape.channel direction (← shapeWithin budget)) us = _
  rw [StateT.run_bind, run_accept_of_ne hne]
  rfl

theorem continues_receive :
    Continues (shapeWithin (budget + 1)) [.arrow, .keyword .chan] (fun _ ↦ True)
      (shapeWithin budget) (Shape.channel .receive) := by
  intro ts us hts _
  obtain ⟨t, ts, rfl, ht, hts⟩ := List.map_eq_cons_iff.1 hts
  obtain ⟨u, rfl, hu⟩ := List.map_eq_singleton_iff.1 hts
  obtain ⟨_, rfl⟩ := exists_eq_mk ht
  obtain ⟨_, rfl⟩ := exists_eq_mk hu
  rfl

theorem run_shapeWithin_func {t : Token} {ts : List Token} (ht : t.kind = .keyword .func) :
    (shapeWithin (budget + 1)).run (t :: ts) =
      (signatureOf (shapeWithin budget)).run ts >>= fun r ↦ .ok (.function r.1, r.2) := by
  obtain ⟨_, rfl⟩ := exists_eq_mk ht
  rfl

/-- A function type goes on with its signature. -/
theorem continues_func :
    Continues (shapeWithin (budget + 1)) [.keyword .func] (fun _ ↦ True)
      (signatureOf (shapeWithin budget)) Shape.function := by
  intro ts us hts _
  obtain ⟨t, rfl, ht⟩ := List.map_eq_singleton_iff.1 hts
  exact run_shapeWithin_func ht

theorem run_shapeWithin_map {t u : Token} {ts : List Token} (ht : t.kind = .keyword .map)
    (hu : u.kind = .opening .square) :
    (shapeWithin (budget + 1)).run (t :: u :: ts) = StateT.run (do
      let key ← shapeWithin budget
      expect (.closing .square)
      return .map key (← shapeWithin budget)) ts := by
  obtain ⟨_, rfl⟩ := exists_eq_mk ht
  obtain ⟨_, rfl⟩ := exists_eq_mk hu
  rfl

/-- After the brackets around its key, a map goes on with the values. -/
theorem continues_map {k : Shape} (hk : ReadsShape (shapeWithin budget) k) :
    Continues (shapeWithin (budget + 1))
      (.keyword .map :: .opening .square :: (kinds k.atoms ++ [.closing .square])) (fun _ ↦ True)
      (shapeWithin budget) (Shape.map k.reread) := by
  intro ts us hts _
  obtain ⟨t, ts, rfl, ht, hts⟩ := List.map_eq_cons_iff.1 hts
  obtain ⟨u, ts, rfl, hu, hts⟩ := List.map_eq_cons_iff.1 hts
  obtain ⟨ts, cs, rfl, hks, hcs⟩ := List.map_eq_append_iff.1 hts
  obtain ⟨c, rfl, hc⟩ := List.map_eq_singleton_iff.1 hcs
  have hends : EndsType (first (c :: us)).kind := by
    rw [first_cons, hc]
    exact ⟨rfl, by simp⟩
  obtain ⟨_, rfl, hrun⟩ := hk ts (c :: us) hks hends
  rw [List.cons_append, List.cons_append, run_shapeWithin_map ht hu, StateT.run_bind,
    List.append_assoc, List.singleton_append, hrun, ok_bind, StateT.run_bind, run_expect_cons hc,
    ok_bind]
  rfl

/-- Where the parser is stuck on the key, the bracket after it is missing. -/
theorem fails_map {ks ls : List Kind} (h : Stuck (shapeWithin budget) ks) :
    Fails (shapeWithin (budget + 1)) (.keyword .map :: .opening .square :: (ks ++ ls)) := by
  have hrest : Fails (do
      let key ← shapeWithin budget
      expect (.closing .square)
      return Shape.map key (← shapeWithin budget)) ks :=
    h.bind_fails fun key ts hts ↦ by
      obtain ⟨e, he⟩ := @run_expect_of_ne ts (.closing .square) (by rw [hts]; simp)
      exact ⟨e, by rw [StateT.run_bind, he]; rfl⟩
  intro ts rest hts
  obtain ⟨t, ts, rfl, ht, hts⟩ := List.map_eq_cons_iff.1 hts
  obtain ⟨u, ts, rfl, hu, hts⟩ := List.map_eq_cons_iff.1 hts
  obtain ⟨ts₁, ts₂, rfl, hts₁, -⟩ := List.map_eq_append_iff.1 hts
  rw [List.cons_append, List.cons_append, run_shapeWithin_map ht hu, List.append_assoc]
  exact hrest ts₁ (ts₂ ++ rest) hts₁

/-- The interface without methods is the only one that is read as a type. -/
theorem reads_interface : Reads (shapeWithin (budget + 1))
    [.keyword .interface, .opening .brace, .closing .brace] EndsType (· = .any) := by
  intro ts rest hts _
  obtain ⟨t, ts, rfl, ht, hts⟩ := List.map_eq_cons_iff.1 hts
  obtain ⟨u, ts, rfl, hu, hts⟩ := List.map_eq_cons_iff.1 hts
  obtain ⟨v, rfl, hv⟩ := List.map_eq_singleton_iff.1 hts
  obtain ⟨_, rfl⟩ := exists_eq_mk ht
  obtain ⟨_, rfl⟩ := exists_eq_mk hu
  obtain ⟨_, rfl⟩ := exists_eq_mk hv
  exact ⟨_, rfl, rfl⟩

theorem reads_struct : Reads (shapeWithin (budget + 1))
    [.keyword .struct, .opening .brace, .closing .brace] EndsType (· = .emptyStruct) := by
  intro ts rest hts _
  obtain ⟨t, ts, rfl, ht, hts⟩ := List.map_eq_cons_iff.1 hts
  obtain ⟨u, ts, rfl, hu, hts⟩ := List.map_eq_cons_iff.1 hts
  obtain ⟨v, rfl, hv⟩ := List.map_eq_singleton_iff.1 hts
  obtain ⟨_, rfl⟩ := exists_eq_mk ht
  obtain ⟨_, rfl⟩ := exists_eq_mk hu
  obtain ⟨_, rfl⟩ := exists_eq_mk hv
  exact ⟨_, rfl, rfl⟩

/-- An opening bracket after a type would make it generic. -/
theorem EndsType.ne_square {k : Kind} (h : EndsType k) : k ≠ .opening .square := by
  rintro rfl
  cases h.1

/-- A name stands for the type that `Shape.ofIdent` gives. -/
theorem reads_ident {n : String} :
    Reads (shapeWithin (budget + 1)) [.ident n] EndsType (· = .ofIdent n) := by
  intro ts rest hts hrest
  obtain ⟨t, rfl, ht⟩ := List.map_eq_singleton_iff.1 hts
  obtain ⟨span, rfl⟩ := exists_eq_mk ht
  refine ⟨_, rfl, ?_⟩
  show (namedShape n span).run rest = _
  simp [namedShape, run_accept_of_ne hrest.2, hrest.ne_square]

theorem reads_qualified {q n : String} :
    Reads (shapeWithin (budget + 1)) [.ident q, .dot, .ident n] EndsType
      (· = .ofQualified q n) := by
  intro ts rest hts hrest
  obtain ⟨t, ts, rfl, ht, hts⟩ := List.map_eq_cons_iff.1 hts
  obtain ⟨u, ts, rfl, hu, hts⟩ := List.map_eq_cons_iff.1 hts
  obtain ⟨v, rfl, hv⟩ := List.map_eq_singleton_iff.1 hts
  obtain ⟨span, rfl⟩ := exists_eq_mk ht
  refine ⟨_, rfl, ?_⟩
  show (namedShape q span).run (u :: v :: rest) = _
  simp [namedShape, run_accept_cons hu, ident, hv, hrest.ne_square]

end Steps

/-! ### Readable types -/

/-- An item of a list has at most as many tokens as the list. -/
theorem length_le_of_mem_commaKinds {ks : List Kind} {kss : List (List Kind)} (h : ks ∈ kss) :
    ks.length ≤ (commaKinds kss).length := by
  induction kss with
  | nil => cases h
  | cons ls kss ih =>
    rw [commaKinds_cons, List.length_append]
    rcases List.mem_cons.1 h with rfl | h
    · exact Nat.le_add_right _ _
    · cases kss with
      | nil => cases h
      | cons ms kss =>
        have hle := ih h
        rw [commaTail_cons, List.length_cons]
        omega

theorem length_kinds_shape_le (p : Param) :
    (kinds p.shape.atoms).length ≤ (kinds p.atoms).length := by
  obtain ⟨n, s, v⟩ := p
  simp only [ParamOf.atoms, Token.kinds_append, List.length_append]
  omega

/-- A result has at most as many tokens as the list of results, with parentheses or without. -/
theorem length_kinds_le_resultListAtoms {rs : List Param} {r : Param} (h : r ∈ rs) :
    (kinds r.atoms).length ≤
      (kinds (resultListAtoms rs (rs.map ParamOf.atoms))).length := by
  have hmem : kinds r.atoms ∈ rs.map fun r ↦ kinds r.atoms := List.mem_map_of_mem h
  rcases results_cases rs with rfl | ⟨s, rfl⟩ | ⟨s, rfl⟩ | ⟨hne, halone⟩
  · cases h
  · obtain rfl := List.mem_singleton.1 h
    simp [resultListAtoms, standsAlone]
  · obtain rfl := List.mem_singleton.1 h
    simp [resultListAtoms, standsAlone]
  · rw [kinds_resultListAtoms hne halone, List.length_cons]
    have hle := length_le_of_mem_commaKinds hmem
    omega

/-- The types in a signature have fewer tokens than the signature. -/
theorem length_kinds_lt_signature {sig : Signature} {p : Param}
    (h : p ∈ sig.params ++ sig.results) :
    (kinds p.shape.atoms).length < (kinds sig.atoms).length := by
  have hshape := length_kinds_shape_le p
  rw [kinds_signature, List.length_cons, List.length_append]
  rcases List.mem_append.1 h with h | h
  · have hmem : kinds p.atoms ∈ sig.params.map fun p ↦ kinds p.atoms := List.mem_map_of_mem h
    have hle := length_le_of_mem_commaKinds hmem
    omega
  · have hle := length_kinds_le_resultListAtoms h
    omega

/-- The tokens of a map, with those of the values at the end. -/
theorem kinds_map (k v : Shape) :
    kinds (Shape.map k v).atoms =
      .keyword .map :: .opening .square :: (kinds k.atoms ++ [.closing .square]) ++
        kinds v.atoms := by
  simp [Shape.atoms]

theorem length_kinds_map (k v : Shape) :
    (kinds (Shape.map k v).atoms).length =
      (kinds k.atoms).length + (kinds v.atoms).length + 3 := by
  rw [kinds_map]
  simp only [List.length_append, List.length_cons, List.length_nil]
  omega

/-- A type has a token, so a budget for it is not zero. -/
theorem exists_budget_succ {s : Shape} {budget : Nat} (hb : (kinds s.atoms).length ≤ budget) :
    ∃ b, budget = b + 1 := by
  obtain ⟨k, ks, hk, -⟩ := exists_kinds_atoms s
  rw [hk, List.length_cons] at hb
  exact ⟨budget - 1, by omega⟩

/-- A written type starts with an arrow only if it is a receive-only channel. -/
theorem starts_ne_arrow {s : Shape} (h : ∀ t, s ≠ .channel .receive t) :
    Starts (· ≠ .arrow) (kinds s.atoms) := by
  cases s with
  | named q n => cases q <;> exact .of_eq rfl (by simp)
  | function sig =>
    rw [Shape.atoms_function]
    exact .of_eq rfl (by simp)
  | channel d s =>
    cases d with
    | both => exact .of_eq rfl (by simp)
    | send => exact .of_eq rfl (by simp)
    | receive => exact absurd rfl (h s)
  | _ => exact .of_eq rfl (by simp)

/-- The tokens of the type are read as they should, both by themselves and after `chan`. -/
structure ReadsInside (s : Shape) : Prop where
  alone : ∀ budget, (kinds s.atoms).length ≤ budget → ReadsShape (shapeWithin budget) s
  chan : ∀ budget, (kinds s.atoms).length ≤ budget →
    Reads (shapeWithin (budget + 1)) (.keyword .chan :: kinds s.atoms) EndsType
      (· = s.reread.afterChan)

namespace ReadsInside

variable {s k v : Shape}

/-- After `chan`, the tokens of a type that starts with no arrow are those of the elements. -/
theorem of_alone (hs : ∀ t, s ≠ .channel .receive t)
    (h : ∀ budget, (kinds s.atoms).length ≤ budget + 1 → ReadsShape (shapeWithin (budget + 1)) s) :
    ReadsInside s := by
  have halone : ∀ budget, (kinds s.atoms).length ≤ budget → ReadsShape (shapeWithin budget) s := by
    intro budget hb
    obtain ⟨budget, rfl⟩ := exists_budget_succ hb
    exact h budget hb
  refine ⟨halone, fun budget hb ↦ ?_⟩
  rw [Shape.afterChan_eq_both (Shape.reread_ne_receive hs)]
  exact continues_chan.reads (starts_ne_arrow hs) (halone budget hb)

/-- A pointer is read if the type that it points to is. -/
theorem pointer (h : ReadsInside s) : ReadsInside (.pointer s) :=
  of_alone (by simp) fun budget hb ↦
    continues_star.reads starts_true (h.alone budget (Nat.le_of_succ_le_succ hb))

theorem slice (h : ReadsInside s) : ReadsInside (.slice s) := by
  refine of_alone (by simp) fun budget hb ↦ ?_
  replace hb : (kinds s.atoms).length + 2 ≤ budget + 1 := hb
  exact continues_square.reads starts_true (h.alone budget (by omega))

/-- A map is read if its keys and its values are. -/
theorem map (hk : ReadsInside k) (hv : ReadsInside v) : ReadsInside (.map k v) := by
  refine of_alone (by simp) fun budget hb ↦ ?_
  rw [length_kinds_map] at hb
  rw [ReadsShape, kinds_map]
  exact (continues_map (hk.alone budget (by omega))).reads starts_true
    (hv.alone budget (by omega))

/-- **A function type is read if the types in it are**, unless its only result is variadic. -/
theorem function {sig : Signature} (hps : IsUniform sig.params) (hrs : IsUniform sig.results)
    (hlone : ∀ s, sig.results ≠ [⟨none, s, true⟩])
    (h : ∀ p ∈ sig.params ++ sig.results, ReadsInside p.shape) :
    ReadsInside (.function sig) := by
  refine of_alone (by simp) fun budget hb ↦ ?_
  rw [Shape.atoms_function, Token.kinds_token, List.length_cons] at hb
  rw [ReadsShape, Shape.atoms_function, Shape.reread_function]
  refine continues_func.reads starts_true (reads_signatureOf hps hrs (fun p hp ↦ ?_) hlone)
  have hlt := length_kinds_lt_signature hp
  exact (h p hp).alone budget (by omega)

/-- A channel is read by what is known of its elements after `chan`. -/
theorem both (h : ReadsInside s) : ReadsInside (.channel .both s) :=
  of_alone (by simp) fun budget hb ↦ h.chan budget (Nat.le_of_succ_le_succ hb)

theorem send (h : ReadsInside s) : ReadsInside (.channel .send s) := by
  refine of_alone (by simp) fun budget hb ↦ ?_
  replace hb : (kinds s.atoms).length + 2 ≤ budget + 1 := hb
  exact continues_send.reads starts_true (h.alone budget (by omega))

/-- After `chan` the arrow goes to the channel before it, and the `chan` after the arrow begins
another one. -/
theorem receive (h : ReadsInside s) : ReadsInside (.channel .receive s) := by
  refine ⟨fun budget hb ↦ ?_, fun budget hb ↦ ?_⟩
  all_goals
    replace hb : (kinds s.atoms).length + 2 ≤ budget := hb
    obtain ⟨budget, rfl⟩ : ∃ b, budget = b + 1 := ⟨budget - 1, by omega⟩
  · exact continues_receive.reads starts_true (h.alone budget (by omega))
  · exact continues_send.reads starts_true (h.chan budget (by omega))

end ReadsInside

/-- The tokens of a readable type are read as they should, by induction on the type. -/
theorem readsInside {s : Shape} (hs : s.Proper) (hr : s.Readable) : ReadsInside s := by
  induction s using Shape.induct with
  | primitive p =>
    refine .of_alone (by simp) fun budget _ ↦ ?_
    have hread := @reads_ident budget p.text
    rwa [Shape.ofIdent_text] at hread
  | pointer s ih =>
    exact (ih (Shape.everywhere_pointer.1 hs).2 (Shape.everywhere_pointer.1 hr).2).pointer
  | named q n =>
    refine .of_alone (by simp) fun budget _ ↦ ?_
    cases q with
    | none => exact reads_ident
    | some q => exact reads_qualified
  | slice s ih =>
    exact (ih (Shape.everywhere_slice.1 hs).2 (Shape.everywhere_slice.1 hr).2).slice
  | map k v ihk ihv =>
    obtain ⟨-, hk, hv⟩ := Shape.everywhere_map.1 hs
    obtain ⟨-, hk', hv'⟩ := Shape.everywhere_map.1 hr
    exact (ihk hk hk').map (ihv hv hv')
  | function ps rs ihps ihrs =>
    obtain ⟨⟨hups, hurs, -⟩, hps, hrs⟩ := Shape.everywhere_function.1 hs
    obtain ⟨hlone, hps', hrs'⟩ := Shape.everywhere_function.1 hr
    refine .function hups hurs (fun s hs ↦ ?_) (List.forall_mem_append.2
      ⟨fun p hp ↦ ihps p hp (hps p hp) (hps' p hp), fun r hr ↦ ihrs r hr (hrs r hr) (hrs' r hr)⟩)
    obtain rfl : rs = _ := hs
    cases hlone
  | context => exact .of_alone (by simp) fun budget _ ↦ reads_qualified
  | any => exact .of_alone (by simp) fun budget _ ↦ reads_interface
  | channel d s ih =>
    have hs' := ih (Shape.everywhere_channel.1 hs).2 (Shape.everywhere_channel.1 hr).2
    cases d with
    | both => exact hs'.both
    | send => exact hs'.send
    | receive => exact hs'.receive
  | emptyStruct => exact .of_alone (by simp) fun budget _ ↦ reads_struct

/-- **The text of a readable type is read as `Shape.reread` says.** -/
theorem reads_shapeWithin {s : Shape} (hs : s.Proper) (hr : s.Readable) {budget : Nat}
    (hb : (kinds s.atoms).length ≤ budget) : ReadsShape (shapeWithin budget) s :=
  (readsInside hs hr).alone budget hb

/-! ### Types that cannot be read -/

/-- A type that cannot be read does not start with an identifier. -/
theorem exists_kinds_ne_ident {s : Shape} (h : ¬ s.Readable) :
    ∃ k ks, kinds s.atoms = k :: ks ∧ ∀ n, k ≠ .ident n := by
  cases s with
  | primitive p => exact (h (Shape.everywhere_primitive.2 rfl)).elim
  | named q n => exact (h (Shape.everywhere_named.2 rfl)).elim
  | context => exact (h (Shape.everywhere_context.2 rfl)).elim
  | function sig =>
    rw [Shape.atoms_function]
    exact ⟨_, _, rfl, by simp⟩
  | channel d s => cases d <;> exact ⟨_, _, rfl, by simp⟩
  | _ => exact ⟨_, _, rfl, by simp⟩

/-- A parser that reads or is stuck on each type, as it should, does so on each entry. -/
theorem reads_or_stuck_paramEntry {inner : Parser Shape} {p : Param}
    (hread : p.shape.Readable → ReadsShape inner p.shape)
    (hstuck : ¬ p.shape.Readable → Stuck inner (kinds p.shape.atoms)) :
    Reads (paramEntry inner) (kinds p.atoms) EndsItem (fun _ ↦ True) ∨
      Stuck (paramEntry inner) (kinds p.atoms) := by
  by_cases h : p.shape.Readable
  · refine .inl ?_
    obtain ⟨name, s, v⟩ := p
    cases name with
    | none => exact (reads_paramEntry_unnamed v (hread h)).mono (fun _ h ↦ h) fun _ _ ↦ trivial
    | some n => exact (reads_paramEntry_named v (hread h)).mono (fun _ h ↦ h) fun _ _ ↦ trivial
  · exact .inr (stuck_paramEntry (hstuck h) fun _ ↦ exists_kinds_ne_ident h)

/-- **A signature that has a type that cannot be read, or a lone variadic result, cannot be read to
its end.** -/
theorem stuck_signatureOf_of_not_readable {inner : Parser Shape} {ps rs : List Param}
    (hps : IsUniform ps) (hread : ∀ p ∈ ps ++ rs, p.shape.Readable → ReadsShape inner p.shape)
    (hstuck : ∀ p ∈ ps ++ rs, ¬ p.shape.Readable → Stuck inner (kinds p.shape.atoms))
    (h : ¬ (Shape.function ⟨ps, rs⟩).Readable) :
    Stuck (signatureOf inner) (kinds (SignatureOf.atoms ⟨ps, rs⟩)) := by
  have hentry : ∀ p ∈ ps ++ rs, Reads (paramEntry inner) (kinds p.atoms) EndsItem (fun _ ↦ True) ∨
      Stuck (paramEntry inner) (kinds p.atoms) :=
    fun p hp ↦ reads_or_stuck_paramEntry (hread p hp) (hstuck p hp)
  by_cases hall : ∀ p ∈ ps, p.shape.Readable
  · refine stuck_signatureOf hps (fun p hp ↦ hread p (by simp [hp]) (hall p hp)) fun params ↦ ?_
    refine stuck_resultsOf (fun r hr ↦ hentry r (by simp [hr])) ?_ params
    by_cases hres : ∀ r ∈ rs, r.shape.Readable
    · -- all types can be read, so it is the result list itself
      left
      rcases rs with _ | ⟨⟨n, s, v⟩, _ | ⟨r, rs⟩⟩
      · exact (h (Shape.everywhere_function.2 ⟨rfl, hall, hres⟩)).elim
      · cases n with
        | some n => exact (h (Shape.everywhere_function.2 ⟨rfl, hall, hres⟩)).elim
        | none =>
          cases v with
          | false => exact (h (Shape.everywhere_function.2 ⟨rfl, hall, hres⟩)).elim
          | true => exact ⟨s, rfl⟩
      · refine (h (Shape.everywhere_function.2 ⟨?_, hall, hres⟩)).elim
        simp [Shape.isLoneVariadic]
    · right
      simp only [not_forall] at hres
      obtain ⟨r, hr, hr'⟩ := hres
      have hs := hstuck r (by simp [hr]) hr'
      exact ⟨r, hr, hs, stuck_paramEntry hs fun _ ↦ exists_kinds_ne_ident hr'⟩
  · simp only [not_forall] at hall
    obtain ⟨p, hp, hp'⟩ := hall
    have hs := hstuck p (by simp [hp]) hp'
    rw [kinds_signature]
    exact ((fails_signatureOf (fails_paramList (fun q hq ↦ hentry q (by simp [hq]))
      (fun q _ ↦ startsItem_param q)
      ⟨p, hp, stuck_paramEntry hs fun _ ↦ exists_kinds_ne_ident hp'⟩)).append _).stuck

/-- The parser is stuck on the tokens of the type, both by themselves and after `chan`. -/
structure StuckInside (s : Shape) : Prop where
  alone : ∀ budget, (kinds s.atoms).length ≤ budget → Stuck (shapeWithin budget) (kinds s.atoms)
  chan : ∀ budget, (kinds s.atoms).length ≤ budget →
    Stuck (shapeWithin (budget + 1)) (.keyword .chan :: kinds s.atoms)

namespace StuckInside

variable {s k v : Shape}

/-- After `chan`, a type that starts with no arrow is stuck if it is by itself. -/
theorem of_alone (hs : ∀ t, s ≠ .channel .receive t)
    (h : ∀ budget, (kinds s.atoms).length ≤ budget + 1 →
      Stuck (shapeWithin (budget + 1)) (kinds s.atoms)) : StuckInside s := by
  have halone : ∀ budget, (kinds s.atoms).length ≤ budget →
      Stuck (shapeWithin budget) (kinds s.atoms) := by
    intro budget hb
    obtain ⟨budget, rfl⟩ := exists_budget_succ hb
    exact h budget hb
  exact ⟨halone, fun budget hb ↦ continues_chan.stuck (starts_ne_arrow hs) (halone budget hb)⟩

theorem pointer (h : StuckInside s) : StuckInside (.pointer s) :=
  of_alone (by simp) fun budget hb ↦
    continues_star.stuck starts_true (h.alone budget (Nat.le_of_succ_le_succ hb))

theorem slice (h : StuckInside s) : StuckInside (.slice s) := by
  refine of_alone (by simp) fun budget hb ↦ ?_
  replace hb : (kinds s.atoms).length + 2 ≤ budget + 1 := hb
  exact continues_square.stuck starts_true (h.alone budget (by omega))

/-- A map is stuck on its key if the parser is. -/
theorem map_key (h : StuckInside k) : StuckInside (.map k v) := by
  refine of_alone (by simp) fun budget hb ↦ ?_
  rw [length_kinds_map] at hb
  rw [kinds_map, List.cons_append, List.cons_append, List.append_assoc]
  exact (fails_map (h.alone budget (by omega))).stuck

/-- A map whose key is read is stuck on its values if the parser is. -/
theorem map_value (hk : ReadsInside k) (hv : StuckInside v) : StuckInside (.map k v) := by
  refine of_alone (by simp) fun budget hb ↦ ?_
  rw [length_kinds_map] at hb
  rw [kinds_map]
  exact (continues_map (hk.alone budget (by omega))).stuck starts_true
    (hv.alone budget (by omega))

/-- **A function type is stuck on the first of its types that cannot be read**, or on its lone
variadic result. -/
theorem function {ps rs : List Param} (hps : IsUniform ps)
    (hread : ∀ p ∈ ps ++ rs, p.shape.Readable → ReadsInside p.shape)
    (hstuck : ∀ p ∈ ps ++ rs, ¬ p.shape.Readable → StuckInside p.shape)
    (h : ¬ (Shape.function ⟨ps, rs⟩).Readable) : StuckInside (.function ⟨ps, rs⟩) := by
  refine of_alone (by simp) fun budget hb ↦ ?_
  rw [Shape.atoms_function, Token.kinds_token, List.length_cons] at hb
  rw [Shape.atoms_function]
  have hlen : ∀ p ∈ ps ++ rs, (kinds p.shape.atoms).length ≤ budget := by
    intro p hp
    have hlt := @length_kinds_lt_signature ⟨ps, rs⟩ _ hp
    omega
  exact continues_func.stuck starts_true (stuck_signatureOf_of_not_readable hps
    (fun p hp hp' ↦ (hread p hp hp').alone budget (hlen p hp))
    (fun p hp hp' ↦ (hstuck p hp hp').alone budget (hlen p hp)) h)

theorem both (h : StuckInside s) : StuckInside (.channel .both s) :=
  of_alone (by simp) fun budget hb ↦ h.chan budget (Nat.le_of_succ_le_succ hb)

theorem send (h : StuckInside s) : StuckInside (.channel .send s) := by
  refine of_alone (by simp) fun budget hb ↦ ?_
  replace hb : (kinds s.atoms).length + 2 ≤ budget + 1 := hb
  exact continues_send.stuck starts_true (h.alone budget (by omega))

theorem receive (h : StuckInside s) : StuckInside (.channel .receive s) := by
  refine ⟨fun budget hb ↦ ?_, fun budget hb ↦ ?_⟩
  all_goals
    replace hb : (kinds s.atoms).length + 2 ≤ budget := hb
    obtain ⟨budget, rfl⟩ : ∃ b, budget = b + 1 := ⟨budget - 1, by omega⟩
  · exact continues_receive.stuck starts_true (h.alone budget (by omega))
  · exact continues_send.stuck starts_true (h.chan budget (by omega))

end StuckInside

/-- The parser is stuck on a type that cannot be read, by induction on the type. -/
theorem stuckInside {s : Shape} (hs : s.Proper) (hr : ¬ s.Readable) : StuckInside s := by
  induction s using Shape.induct with
  | primitive p => exact (hr (Shape.everywhere_primitive.2 rfl)).elim
  | pointer s ih =>
    exact (ih (Shape.everywhere_pointer.1 hs).2
      fun h ↦ hr (Shape.everywhere_pointer.2 ⟨rfl, h⟩)).pointer
  | named q n => exact (hr (Shape.everywhere_named.2 rfl)).elim
  | slice s ih =>
    exact (ih (Shape.everywhere_slice.1 hs).2
      fun h ↦ hr (Shape.everywhere_slice.2 ⟨rfl, h⟩)).slice
  | map k v ihk ihv =>
    obtain ⟨-, hk, hv⟩ := Shape.everywhere_map.1 hs
    by_cases hkr : k.Readable
    · exact .map_value (readsInside hk hkr)
        (ihv hv fun h ↦ hr (Shape.everywhere_map.2 ⟨rfl, hkr, h⟩))
    · exact .map_key (ihk hk hkr)
  | function ps rs ihps ihrs =>
    obtain ⟨⟨hups, -, -⟩, hps, hrs⟩ := Shape.everywhere_function.1 hs
    have hproper : ∀ p ∈ ps ++ rs, p.shape.Proper := List.forall_mem_append.2 ⟨hps, hrs⟩
    exact .function hups (fun p hp hp' ↦ readsInside (hproper p hp) hp') (List.forall_mem_append.2
      ⟨fun p hp hp' ↦ ihps p hp (hps p hp) hp', fun r hr hr' ↦ ihrs r hr (hrs r hr) hr'⟩) hr
  | context => exact (hr (Shape.everywhere_context.2 rfl)).elim
  | any => exact (hr (Shape.everywhere_any.2 rfl)).elim
  | channel d s ih =>
    have hs' := ih (Shape.everywhere_channel.1 hs).2
      fun h ↦ hr (Shape.everywhere_channel.2 ⟨rfl, h⟩)
    cases d with
    | both => exact hs'.both
    | send => exact hs'.send
    | receive => exact hs'.receive
  | emptyStruct => exact (hr (Shape.everywhere_emptyStruct.2 rfl)).elim

/-- **The text of a type with a lone variadic result leaves the parser stuck.** -/
theorem stuck_shapeWithin {s : Shape} (hs : s.Proper) (hr : ¬ s.Readable) {budget : Nat}
    (hb : (kinds s.atoms).length ≤ budget) : Stuck (shapeWithin budget) (kinds s.atoms) :=
  (stuckInside hs hr).alone budget hb

/-! ### The parser for types -/

/-- The parser for types starts with the number of tokens that are left as its budget. -/
theorem run_shape (ts : List Token) : shape.run ts = (shapeWithin (ts.length + 1)).run ts := rfl

theorem length_kinds_le {ts rest : List Token} {ks : List Kind} (h : ts.map Token.kind = ks) :
    ks.length ≤ (ts ++ rest).length + 1 := by
  rw [← h, List.length_map, List.length_append]
  omega

/-- The text of a readable type, read with the budget that the parser starts with. -/
theorem reads_shape {s : Shape} (hs : s.Proper) (hr : s.Readable) : ReadsShape shape s := by
  intro ts rest hts hrest
  rw [run_shape]
  exact reads_shapeWithin hs hr (length_kinds_le hts) ts rest hts hrest

theorem stuck_shape {s : Shape} (hs : s.Proper) (hr : ¬ s.Readable) :
    Stuck shape (kinds s.atoms) := by
  intro ts rest hts
  rw [run_shape]
  exact stuck_shapeWithin hs hr (length_kinds_le hts) ts rest hts

end Parser

end GoDecorator
