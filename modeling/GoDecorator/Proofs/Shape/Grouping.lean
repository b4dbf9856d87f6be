import GoDecorator.Proofs.Parser.Stretches
import GoDecorator.Proofs.Shape.Parts
import GoDecorator.Shape.Parser

/-!
# What the entries of a parameter list stand for

Whether an identifier that stands alone in a parameter list is a name or a type is settled for the
list as a whole, by `resolveParams`. This file says what it settles: **each entry stands for one
parameter**, and either all of them are types (`readAsTypes_of_resolveParams`) or all of them have
names (`readAsNames_of_resolveParams`), where a name that stands alone has the type of the nearest
entry to its right that has both. When a list is accepted at all is said by
`exists_resolveParams_iff`: no entry has a name and a type, or none is a type alone and the last one
has both.

## The scan

The list is scanned from its end, and what the scan carries is the parameter after the entry. That
it has the type of the nearest entry with both is the invariant of the scan
(`getElem?_resolveNamed`); the rest is read off from there. The nearest entry is found with
`List.find?` on what is left of the list, so that the statement mentions neither the scan nor its
direction.

## Dots

Dots are read off in the same way: they are shared by a group of names, like the type they belong to
(`variadic_iff`). Nothing in the list is checked for where dots stand, so a list can have variadic
parameters in other places than the last one. `DotsInPlace` says of the entries when it has not
(`variadicLast_iff`): only the last entry has dots, and no name in front of it shares its type.
-/

namespace GoDecorator

namespace ParamEntry

/-! ### What an entry has -/

/-- Whether the entry is a type without a name. -/
def isBare : ParamEntry → Bool
  | bare _ _ => true
  | _ => false

/-- Whether dots stand in front of the type of the entry. -/
def isDotted : ParamEntry → Bool
  | lone _ _ => false
  | bare _ variadic => variadic
  | named _ _ variadic => variadic

/-- The identifier of the entry, if it has one in front of its type or alone. -/
def name? : ParamEntry → Option String
  | lone name _ => some name
  | bare _ _ => none
  | named name _ _ => some name

/-- The type of the entry, if one is written in it. -/
def shape? : ParamEntry → Option Shape
  | lone _ _ => none
  | bare shape _ => some shape
  | named _ shape _ => some shape

theorem isNamed_iff {e : ParamEntry} : e.isNamed = true ↔ ∃ n s v, e = .named n s v := by
  cases e <;> simp [isNamed]

/-- An entry that is no type and has no type is a name alone. -/
theorem exists_lone {e : ParamEntry} (hbare : e.isBare = false) (hnamed : e.isNamed = false) :
    ∃ n span, e = .lone n span := by
  match e, hbare, hnamed with
  | .lone n span, _, _ => exact ⟨n, span, rfl⟩

theorem name_toUnnamed (e : ParamEntry) : e.toUnnamed.name = none := by
  cases e <;> rfl

theorem variadic_toUnnamed (e : ParamEntry) : e.toUnnamed.variadic = e.isDotted := by
  cases e <;> rfl

end ParamEntry

/-! ### Lists with names -/

section Named

variable {es : List ParamEntry} {ps : List Param}

/-- The entries after the first one are resolved before it. -/
theorem exists_of_resolveNamed_cons {e : ParamEntry} (h : resolveNamed (e :: es) = .ok ps) :
    ∃ qs, resolveNamed es = .ok qs ∧ e.prepend qs = .ok ps := by
  rw [resolveNamed] at h
  exact exists_of_bind_eq_ok h

/-- The parameter of an entry goes in front of those that follow it, and a name that stands alone
takes the type of the next one. -/
theorem exists_of_prepend {e : ParamEntry} {following : List Param}
    (h : e.prepend following = .ok ps) : ∃ n s v, ps = ⟨some n, s, v⟩ :: following ∧
      (e = .named n s v ∨ ∃ span m rest, e = .lone n span ∧ following = ⟨m, s, v⟩ :: rest) := by
  match e, following, h with
  | .named n s v, _, h => exact ⟨n, s, v, (Except.ok.inj h).symm, .inl rfl⟩
  | .lone n span, ⟨m, s, v⟩ :: rest, h =>
    exact ⟨n, s, v, (Except.ok.inj h).symm, .inr ⟨span, m, rest, rfl, rfl⟩⟩

/-- There is one parameter for each entry. -/
theorem length_resolveNamed (h : resolveNamed es = .ok ps) : ps.length = es.length := by
  induction es generalizing ps with
  | nil =>
    obtain rfl := Except.ok.inj h
    rfl
  | cons e es ih =>
    obtain ⟨qs, hqs, hps⟩ := exists_of_resolveNamed_cons h
    obtain ⟨n, s, v, rfl, -⟩ := exists_of_prepend hps
    rw [List.length_cons, List.length_cons, ih hqs]

/-- **The parameter of an entry has the type of the nearest entry with a name and a type**, which is
the entry itself or one to its right. -/
theorem getElem?_resolveNamed (h : resolveNamed es = .ok ps) {i : Nat} {e : ParamEntry}
    (he : es[i]? = some e) : ∃ n m s v, e.name? = some n ∧
      (es.drop i).find? ParamEntry.isNamed = some (.named m s v) ∧
      ps[i]? = some ⟨some n, s, v⟩ := by
  induction es generalizing ps i e with
  | nil => simp at he
  | cons e' es ih =>
    obtain ⟨qs, hqs, hps⟩ := exists_of_resolveNamed_cons h
    obtain ⟨n, s, v, rfl, hentry⟩ := exists_of_prepend hps
    cases i with
    | succ i => exact ih hqs he
    | zero =>
      obtain rfl := Option.some.inj he
      rcases hentry with rfl | ⟨span, m, rest, rfl, rfl⟩
      · exact ⟨n, n, s, v, rfl, rfl, rfl⟩
      · -- the scan carries the parameter of the next entry
        have hlength : 0 < es.length := by
          rw [← length_resolveNamed hqs]
          exact Nat.zero_lt_succ _
        obtain ⟨_, m', s', v', -, hfind, hq⟩ := ih hqs (List.getElem?_eq_getElem hlength)
        obtain ⟨-, rfl, rfl⟩ := ParamOf.mk.inj (Option.some.inj hq)
        exact ⟨n, m', s, v, rfl, hfind, rfl⟩

/-- **A list without bare types whose last entry has a type can be resolved.** -/
theorem exists_resolveNamed (hbare : ∀ e ∈ es, e.isBare = false)
    (hlast : ∀ e ∈ es.getLast?, e.isNamed = true) : ∃ ps, resolveNamed es = .ok ps := by
  induction es with
  | nil => exact ⟨[], rfl⟩
  | cons e es ih =>
    obtain ⟨he, hes⟩ := List.forall_mem_cons.1 hbare
    cases es with
    | nil =>
      obtain ⟨n, s, v, rfl⟩ := ParamEntry.isNamed_iff.1 (hlast e rfl)
      exact ⟨_, rfl⟩
    | cons e' es =>
      obtain ⟨qs, hqs⟩ := ih hes fun x hx ↦ hlast x (by rwa [List.getLast?_cons_cons])
      obtain ⟨_, _, _, _, -, -, hq⟩ := getElem?_resolveNamed (i := 0) hqs rfl
      obtain ⟨rest, rfl⟩ := List.head?_eq_some_iff.1 (List.head?_eq_getElem? ▸ hq)
      rw [resolveNamed, hqs]
      match e, he with
      | .named _ _ _, _ => exact ⟨_, rfl⟩
      | .lone _ _, _ => exact ⟨_, rfl⟩

theorem isSome_name_of_resolveNamed (h : resolveNamed es = .ok ps) :
    ∀ p ∈ ps, p.name.isSome = true := by
  induction es generalizing ps with
  | nil =>
    obtain rfl := Except.ok.inj h
    simp
  | cons e es ih =>
    obtain ⟨qs, hqs, hps⟩ := exists_of_resolveNamed_cons h
    obtain ⟨n, s, v, rfl, -⟩ := exists_of_prepend hps
    exact List.forall_mem_cons.2 ⟨rfl, ih hqs⟩

/-- A list that is resolved by names has no bare type in it. -/
theorem isBare_of_resolveNamed (h : resolveNamed es = .ok ps) : ∀ e ∈ es, e.isBare = false := by
  intro e he
  obtain ⟨i, hi⟩ := List.mem_iff_getElem?.1 he
  obtain ⟨n, _, _, _, hn, -⟩ := getElem?_resolveNamed h hi
  cases e <;> trivial

/-- The last entry of such a list has a name and a type. -/
theorem isNamed_of_resolveNamed (h : resolveNamed es = .ok ps) :
    ∀ e ∈ es.getLast?, e.isNamed = true := by
  intro e he
  obtain ⟨front, rfl⟩ := List.getLast?_eq_some_iff.1 he
  have hi : (front ++ [e])[front.length]? = some e := by simp
  obtain ⟨_, m, s, v, -, hfind, -⟩ := getElem?_resolveNamed h hi
  rw [List.drop_left] at hfind
  obtain rfl := List.mem_singleton.1 (List.mem_of_find?_eq_some hfind)
  rfl

end Named

/-! ### All lists -/

/-- Every entry is read as a type. -/
structure ReadAsTypes (es : List ParamEntry) (ps : List Param) : Prop where
  /-- There is one parameter for each entry. -/
  length_eq : ps.length = es.length
  /-- No parameter has a name. -/
  unnamed : ∀ p ∈ ps, p.name = none
  /-- An identifier that stands alone is a type. -/
  lone (i : Nat) (n : String) (span : Span) :
    es[i]? = some (.lone n span) → ps[i]? = some ⟨none, .ofIdent n, false⟩
  /-- A type without a name is that type. -/
  bare (i : Nat) (s : Shape) (v : Bool) : es[i]? = some (.bare s v) → ps[i]? = some ⟨none, s, v⟩

/-- Every entry is read as a parameter with a name. -/
structure ReadAsNames (es : List ParamEntry) (ps : List Param) : Prop where
  /-- There is one parameter for each entry. -/
  length_eq : ps.length = es.length
  /-- Every parameter has a name. -/
  isSome_name : ∀ p ∈ ps, p.name.isSome = true
  /-- An entry with a name and a type has both. -/
  named (i : Nat) (n : String) (s : Shape) (v : Bool) :
    es[i]? = some (.named n s v) → ps[i]? = some ⟨some n, s, v⟩
  /-- An identifier that stands alone is a name, and its type and its dots are those of the nearest
  entry to its right with a name and a type. -/
  lone (i : Nat) (n : String) (span : Span) : es[i]? = some (.lone n span) → ∃ m s v,
    (es.drop (i + 1)).find? ParamEntry.isNamed = some (.named m s v) ∧
      ps[i]? = some ⟨some n, s, v⟩

section Resolve

variable {es : List ParamEntry} {ps : List Param}

/-- Either the list has no entry with a name and a type, or it is scanned from its end. -/
theorem resolveParams_cases (h : resolveParams es = .ok ps) :
    ((∀ e ∈ es, e.isNamed = false) ∧ ps = es.map ParamEntry.toUnnamed) ∨
      (∃ e ∈ es, e.isNamed = true) ∧ resolveNamed es = .ok ps := by
  unfold resolveParams at h
  split at h
  · next hnamed => exact .inr ⟨List.any_eq_true.1 hnamed, h⟩
  · next hnone => exact .inl ⟨by simpa using hnone, (Except.ok.inj h).symm⟩

/-- **Which lists are accepted.** -/
theorem exists_resolveParams_iff : (∃ ps, resolveParams es = .ok ps) ↔
    (∀ e ∈ es, e.isNamed = false) ∨
      (∀ e ∈ es, e.isBare = false) ∧ ∃ e ∈ es.getLast?, e.isNamed = true := by
  constructor
  · rintro ⟨ps, hps⟩
    obtain ⟨hnone, -⟩ | ⟨⟨e, he, -⟩, hnamed⟩ := resolveParams_cases hps
    · exact .inl hnone
    · have hlast := List.getLast?_eq_some_getLast (List.ne_nil_of_mem he)
      exact .inr ⟨isBare_of_resolveNamed hnamed, _, hlast, isNamed_of_resolveNamed hnamed _ hlast⟩
  · intro h
    unfold resolveParams
    split
    · next hnamed =>
      obtain ⟨e, he, hsome⟩ := List.any_eq_true.1 hnamed
      rcases h with hnone | ⟨hbare, l, hl, hlast⟩
      · rw [hnone e he] at hsome
        cases hsome
      · refine exists_resolveNamed hbare fun x hx ↦ ?_
        obtain rfl := Option.some.inj (hl.symm.trans hx)
        exact hlast
    · exact ⟨_, rfl⟩

/-- **Where no entry has a name and a type, all entries are types.** -/
theorem readAsTypes_of_resolveParams (h : resolveParams es = .ok ps)
    (hnone : ∀ e ∈ es, e.isNamed = false) : ReadAsTypes es ps := by
  obtain ⟨-, rfl⟩ | ⟨⟨e, he, hsome⟩, -⟩ := resolveParams_cases h
  · refine ⟨List.length_map _, fun p hp ↦ ?_, fun i n span hi ↦ ?_, fun i s v hi ↦ ?_⟩
    · obtain ⟨e, -, rfl⟩ := List.mem_map.1 hp
      exact e.name_toUnnamed
    · rw [List.getElem?_map, hi]
      rfl
    · rw [List.getElem?_map, hi]
      rfl
  · rw [hnone e he] at hsome
    cases hsome

/-- **Where some entry has a name and a type, all entries have names.** -/
theorem readAsNames_of_resolveParams (h : resolveParams es = .ok ps)
    (hsome : ∃ e ∈ es, e.isNamed = true) : ReadAsNames es ps := by
  obtain ⟨hnone, -⟩ | ⟨-, hnamed⟩ := resolveParams_cases h
  · obtain ⟨e, he, hsome⟩ := hsome
    rw [hnone e he] at hsome
    cases hsome
  · refine ⟨length_resolveNamed hnamed, isSome_name_of_resolveNamed hnamed,
      fun i n s v hi ↦ ?_, fun i n span hi ↦ ?_⟩
    · obtain ⟨_, _, _, _, ⟨rfl⟩, hfind, hp⟩ := getElem?_resolveNamed hnamed hi
      rw [List.drop_eq_getElem?_toList_append, hi] at hfind
      cases hfind
      exact hp
    · obtain ⟨_, m, s, v, ⟨rfl⟩, hfind, hp⟩ := getElem?_resolveNamed hnamed hi
      rw [List.drop_eq_getElem?_toList_append, hi] at hfind
      exact ⟨m, s, v, hfind, hp⟩

theorem length_resolveParams (h : resolveParams es = .ok ps) : ps.length = es.length := by
  obtain ⟨-, rfl⟩ | ⟨-, hnamed⟩ := resolveParams_cases h
  · exact List.length_map _
  · exact length_resolveNamed hnamed

/-- The entry of a parameter. -/
theorem exists_entry_of_resolveParams (h : resolveParams es = .ok ps) {i : Nat} {p : Param}
    (hp : ps[i]? = some p) : ∃ e, es[i]? = some e := by
  have hi : i < es.length := by
    rw [← length_resolveParams h]
    exact (List.getElem?_eq_some_iff.1 hp).1
  exact ⟨es[i], List.getElem?_eq_getElem hi⟩

/-- **A parameter list is all named or all unnamed.** -/
theorem isUniform_of_resolveParams (h : resolveParams es = .ok ps) : IsUniform ps := by
  by_cases hsome : ∃ e ∈ es, e.isNamed = true
  · exact .inl (readAsNames_of_resolveParams h hsome).isSome_name
  · exact .inr (readAsTypes_of_resolveParams h (by simpa using hsome)).unnamed

/-- **A parameter has its name and its type from the entries**; an identifier can be the type. -/
theorem mem_of_resolveParams (h : resolveParams es = .ok ps) {p : Param} (hp : p ∈ ps) :
    (∀ n ∈ p.name, ∃ e ∈ es, e.name? = some n) ∧
      ∃ e ∈ es, e.shape? = some p.shape ∨ ∃ n, e.name? = some n ∧ p.shape = .ofIdent n := by
  obtain ⟨-, rfl⟩ | ⟨-, hnamed⟩ := resolveParams_cases h
  · obtain ⟨e, he, rfl⟩ := List.mem_map.1 hp
    match e with
    | .lone n _ => exact ⟨fun _ hn ↦ (nomatch hn), _, he, .inr ⟨n, rfl, rfl⟩⟩
    | .bare s _ => exact ⟨fun _ hn ↦ (nomatch hn), _, he, .inl rfl⟩
    | .named _ s _ => exact ⟨fun _ hn ↦ (nomatch hn), _, he, .inl rfl⟩
  · obtain ⟨i, hi⟩ := List.mem_iff_getElem?.1 hp
    obtain ⟨e, he⟩ := exists_entry_of_resolveParams h hi
    obtain ⟨n, m, s, v, hn, hfind, hparam⟩ := getElem?_resolveNamed hnamed he
    obtain rfl := Option.some.inj (hi.symm.trans hparam)
    have hnearest := List.mem_of_mem_drop (List.mem_of_find?_eq_some hfind)
    refine ⟨?_, _, hnearest, .inl rfl⟩
    rintro _ ⟨rfl⟩
    exact ⟨e, List.mem_of_getElem? he, hn⟩

/-! ### Dots -/

/-- The nearest element with a property, by its index. -/
theorem find?_drop_eq_some_iff {α : Type} {q : α → Bool} {l : List α} {i : Nat} {x : α} :
    (l.drop i).find? q = some x ↔ q x = true ∧ ∃ j, i ≤ j ∧ l[j]? = some x ∧
      ∀ k, i ≤ k → k < j → ∀ y, l[k]? = some y → q y = false := by
  rw [List.find?_eq_some_iff_getElem]
  refine and_congr_right fun _ ↦ ⟨?_, ?_⟩
  · rintro ⟨j, hj, hx, hbefore⟩
    refine ⟨i + j, Nat.le_add_right i j, ?_, fun k hik hkj y hy ↦ ?_⟩
    · rw [← List.getElem?_drop, List.getElem?_eq_getElem hj, hx]
    · obtain ⟨k, rfl⟩ := Nat.exists_eq_add_of_le hik
      rw [← List.getElem?_drop] at hy
      obtain ⟨hk, rfl⟩ := List.getElem?_eq_some_iff.1 hy
      simpa using hbefore k (by omega)
  · rintro ⟨j, hij, hx, hbefore⟩
    obtain ⟨j, rfl⟩ := Nat.exists_eq_add_of_le hij
    rw [← List.getElem?_drop] at hx
    obtain ⟨hj, hx⟩ := List.getElem?_eq_some_iff.1 hx
    refine ⟨j, hj, hx, fun k hk ↦ ?_⟩
    have hkth := hbefore (i + k) (Nat.le_add_right i k) (by omega) ((l.drop i)[k])
      (by rw [← List.getElem?_drop, List.getElem?_eq_getElem])
    simpa using hkth

/-- In a list of names, only names alone stand before the nearest entry with a name and a type. -/
theorem find?_isNamed_iff (hbare : ∀ e ∈ es, e.isBare = false) {i : Nat} {m : String} {s : Shape}
    {v : Bool} : (es.drop i).find? ParamEntry.isNamed = some (.named m s v) ↔
      ∃ j, i ≤ j ∧ es[j]? = some (.named m s v) ∧
        ∀ k, i ≤ k → k < j → ∃ n span, es[k]? = some (.lone n span) := by
  refine find?_drop_eq_some_iff.trans ((and_iff_right rfl).trans ?_)
  refine exists_congr fun j ↦ and_congr_right fun _ ↦ and_congr_right fun hj ↦ ?_
  refine forall_congr' fun k ↦ forall_congr' fun _ ↦ forall_congr' fun hkj ↦ ⟨fun hnamed ↦ ?_, ?_⟩
  · have hlt : k < es.length := Nat.lt_trans hkj (List.getElem?_eq_some_iff.1 hj).1
    have hk := List.getElem?_eq_getElem hlt
    obtain ⟨n, span, hlone⟩ :=
      ParamEntry.exists_lone (hbare _ (List.getElem_mem hlt)) (hnamed _ hk)
    exact ⟨n, span, hk.trans (congrArg some hlone)⟩
  · rintro ⟨n, span, hk⟩ y hy
    obtain rfl := Option.some.inj (hk.symm.trans hy)
    rfl

/-- **A parameter is variadic exactly if its entry has dots, or if it is one of the names alone in
front of an entry with a name and dots.** -/
theorem variadic_iff (h : resolveParams es = .ok ps) {i : Nat} {p : Param}
    (hp : ps[i]? = some p) : p.variadic = true ↔
      (∃ e, es[i]? = some e ∧ e.isDotted = true) ∨
        ∃ j m s, i < j ∧ es[j]? = some (.named m s true) ∧
          ∀ k, i ≤ k → k < j → ∃ n span, es[k]? = some (.lone n span) := by
  obtain ⟨e, he⟩ := exists_entry_of_resolveParams h hp
  obtain ⟨hnone, rfl⟩ | ⟨-, hnamed⟩ := resolveParams_cases h
  · rw [List.getElem?_map, he] at hp
    obtain rfl := Option.some.inj hp
    rw [ParamEntry.variadic_toUnnamed]
    refine ⟨fun hdots ↦ .inl ⟨e, he, hdots⟩, ?_⟩
    rintro (⟨e', he', hdots⟩ | ⟨j, m, s, -, hj, -⟩)
    · exact Option.some.inj (he.symm.trans he') ▸ hdots
    · cases hnone _ (List.mem_of_getElem? hj)
  · obtain ⟨n, m, s, v, -, hfind, hparam⟩ := getElem?_resolveNamed hnamed he
    obtain rfl := Option.some.inj (hp.symm.trans hparam)
    have hbare := isBare_of_resolveNamed hnamed
    constructor
    · rintro rfl
      obtain ⟨j, hij, hj, hlone⟩ := (find?_isNamed_iff hbare).1 hfind
      rcases Nat.eq_or_lt_of_le hij with rfl | hij
      · exact .inl ⟨_, hj, rfl⟩
      · exact .inr ⟨j, m, s, hij, hj, hlone⟩
    · -- in both cases the nearest entry with a name and a type has dots
      rintro (⟨e', he', hdots⟩ | ⟨j, m', s', hij, hj, hlone⟩)
      · match e', hbare _ (List.mem_of_getElem? he'), hdots with
        | .named m' s' _, _, rfl =>
          have hfind' := (find?_isNamed_iff hbare).2
            ⟨i, Nat.le_refl i, he', fun k hik hki ↦ absurd hki (Nat.not_lt.2 hik)⟩
          exact (ParamEntry.named.inj (Option.some.inj (hfind.symm.trans hfind'))).2.2
      · have hfind' := (find?_isNamed_iff hbare).2 ⟨j, Nat.le_of_lt hij, hj, hlone⟩
        exact (ParamEntry.named.inj (Option.some.inj (hfind.symm.trans hfind'))).2.2

/-- The dots of a list are where they mark the last parameter and no other: in the last entry, and
not in one that shares its type with the name before it. -/
structure DotsInPlace (es : List ParamEntry) : Prop where
  /-- Only the last entry has dots. -/
  last (i : Nat) (e : ParamEntry) : es[i]? = some e → e.isDotted = true → i + 1 = es.length
  /-- No name that stands alone takes its type from an entry with dots. -/
  own (i : Nat) (n m : String) (span : Span) (s : Shape) :
    es[i]? = some (.lone n span) → es[i + 1]? ≠ some (.named m s true)

/-- Only the last parameter of the list is variadic, if any is. -/
def VariadicLast (ps : List Param) : Prop :=
  ∀ (i : Nat) (p : Param), ps[i]? = some p → p.variadic = true → i + 1 = ps.length

/-- The parameter of an entry. -/
theorem exists_param_of_resolveParams (h : resolveParams es = .ok ps) {i : Nat} {e : ParamEntry}
    (he : es[i]? = some e) : ∃ p, ps[i]? = some p := by
  have hi : i < ps.length := by
    rw [length_resolveParams h]
    exact (List.getElem?_eq_some_iff.1 he).1
  exact ⟨ps[i], List.getElem?_eq_getElem hi⟩

/-- **Only the last parameter is variadic exactly if the dots are in place.** -/
theorem variadicLast_iff (h : resolveParams es = .ok ps) : VariadicLast ps ↔ DotsInPlace es := by
  unfold VariadicLast
  rw [length_resolveParams h]
  constructor
  · refine fun hlast ↦ ⟨fun i e he hdots ↦ ?_, fun i n m span s hi hnext ↦ ?_⟩
    · obtain ⟨p, hp⟩ := exists_param_of_resolveParams h he
      exact hlast i p hp ((variadic_iff h hp).2 (.inl ⟨e, he, hdots⟩))
    · obtain ⟨p, hp⟩ := exists_param_of_resolveParams h hi
      have hshared : ∀ k, i ≤ k → k < i + 1 → ∃ n span, es[k]? = some (.lone n span) := by
        intro k hik hki
        obtain rfl : k = i := by omega
        exact ⟨n, span, hi⟩
      have hend := hlast i p hp
        ((variadic_iff h hp).2 (.inr ⟨i + 1, m, s, Nat.lt_succ_self i, hnext, hshared⟩))
      rw [hend, List.getElem?_length] at hnext
      cases hnext
  · intro hplace i p hp hvariadic
    obtain ⟨e, he, hdots⟩ | ⟨j, m, s, hij, hj, hlone⟩ := (variadic_iff h hp).1 hvariadic
    · exact hplace.last i e he hdots
    · obtain ⟨k, rfl⟩ := Nat.exists_eq_add_of_lt hij
      obtain ⟨n, span, hk⟩ := hlone (i + k) (Nat.le_add_right i k) (Nat.lt_succ_self _)
      exact absurd hj (hplace.own (i + k) n m span s hk)

/-- **No parameter is variadic exactly if no entry has dots.** -/
theorem forall_variadic_eq_false_iff (h : resolveParams es = .ok ps) :
    (∀ p ∈ ps, p.variadic = false) ↔ ∀ e ∈ es, e.isDotted = false := by
  simp only [← Bool.not_eq_true]
  constructor
  · intro hnone e he hdots
    obtain ⟨i, hi⟩ := List.mem_iff_getElem?.1 he
    obtain ⟨p, hp⟩ := exists_param_of_resolveParams h hi
    exact hnone p (List.mem_of_getElem? hp) ((variadic_iff h hp).2 (.inl ⟨e, hi, hdots⟩))
  · intro hnone p hp hvariadic
    obtain ⟨i, hi⟩ := List.mem_iff_getElem?.1 hp
    obtain ⟨e, he, hdots⟩ | ⟨j, m, s, -, hj, -⟩ := (variadic_iff h hi).1 hvariadic
    · exact hnone e (List.mem_of_getElem? he) hdots
    · exact hnone _ (List.mem_of_getElem? hj) rfl

end Resolve

end GoDecorator
