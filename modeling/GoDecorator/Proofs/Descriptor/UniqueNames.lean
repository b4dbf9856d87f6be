import GoDecorator.Proofs.Descriptor.Preparing

/-!
# Unique names

Within one function no two variables may share a name, nor may one have the name of a package or of
something that the surrounding code uses (`prepare_unique_names`).

## Handing out names

All of this rests on one invariant of `Names`: **the taken names are distinct, and what is handed
out is put in front of them** (`taken_allocateEach`, `nodup_taken_allocateEach`). It holds because
the search for a number ends at a numbered name that is not taken (`numbered_firstFree_not_mem`):
numbered names with different numbers differ, so the taken ones run out.

## Preparing a method

A method is prepared in two rounds over the same names. The first one decides which parameters keep
their names (`getElem?_keepNames`); the second one hands out names to the others. That is why a name
that stands late in the list is kept although the same name could have been handed out before.

The names of all parameters together are then those that were taken on the way
(`perm_taken_renameParams`), whatever the order in which they were: kept names are taken in the
first round, all others in the second, so the statement is about permutations. The results, and
everything that is asked for later, come on top.
-/

namespace GoDecorator

/-! ### Free numbers -/

/-- Different numbers give different names. -/
theorem numbered_inj {base : String} {j k : Nat} (h : numbered base j = numbered base k) :
    j = k := by
  have htext : toString j = toString k := (String.append_right_inj base).1 h
  rw [Nat.toString_eq_ofList_toDigits, Nat.toString_eq_ofList_toDigits] at htext
  have hdigits := congrArg (Nat.ofDigitChars 10 · 0) (String.ofList_injective htext)
  rwa [Nat.ofDigitChars_ten_toDigits, Nat.ofDigitChars_ten_toDigits] at hdigits

/-- The search for a free number only goes up. -/
theorem le_firstFree (base : String) (taken : List String) (k : Nat) :
    k ≤ firstFree base taken k := by
  fun_induction firstFree base taken k with
  | case1 taken k hmem ih => exact Nat.le_of_succ_le ih
  | case2 taken k hmem => exact Nat.le_refl k

/-- **The search ends at a name that is not taken.** -/
theorem numbered_firstFree_not_mem (base : String) (taken : List String) (k : Nat) :
    numbered base (firstFree base taken k) ∉ taken := by
  fun_induction firstFree base taken k with
  | case1 taken k hmem ih =>
    -- The erased name has a smaller number, so it is not the one that was found.
    have hlt : k + 1 ≤ firstFree base (taken.erase (numbered base k)) (k + 1) := le_firstFree ..
    have hne : numbered base (firstFree base (taken.erase (numbered base k)) (k + 1)) ≠
        numbered base k := fun heq ↦ by
      have hk := numbered_inj heq
      omega
    exact fun hfound ↦ ih ((List.mem_erase_of_ne hne).2 hfound)
  | case2 taken k hmem => exact hmem

namespace Names

/-! ### Handing out names -/

/-- **A name that is handed out was free.** -/
theorem fst_allocate_not_mem (names : Names) (base : String) :
    (names.allocate base).1 ∉ names.taken := by
  by_cases h : base ∈ names.taken
  · simp only [allocate, reserve, h, if_true]
    exact numbered_firstFree_not_mem base _ _
  · rw [allocate_of_not_mem names h]
    exact h

/-- Takes and returns names made from the given ones, in order. -/
def allocateEach (names : Names) : List String → List String × Names
  | [] => ([], names)
  | base :: bases =>
    let (name, names) := names.allocate base
    let (rest, names) := names.allocateEach bases
    (name :: rest, names)

/-- Names for types are handed out one by one. -/
theorem allocateAll_eq (names : Names) (shapes : List Shape) :
    names.allocateAll shapes = names.allocateEach (shapes.map Shape.variableName) := by
  induction shapes generalizing names with
  | nil => rfl
  | cons s ss ih => simp only [allocateAll, allocateFor, ih, List.map_cons, allocateEach]

/-- Requests one after the other are one list of requests. -/
theorem allocateEach_append (names : Names) (bases later : List String) :
    names.allocateEach (bases ++ later) =
      ((names.allocateEach bases).1 ++ ((names.allocateEach bases).2.allocateEach later).1,
        ((names.allocateEach bases).2.allocateEach later).2) := by
  induction bases generalizing names with
  | nil => rfl
  | cons base bases ih => simp only [List.cons_append, allocateEach, ih]

/-- What is handed out is put in front of the taken names. -/
theorem taken_allocateEach (names : Names) (bases : List String) :
    (names.allocateEach bases).2.taken = (names.allocateEach bases).1.reverse ++ names.taken := by
  induction bases generalizing names with
  | nil => rfl
  | cons base bases ih =>
    simp only [allocateEach, ih, taken_allocate, List.reverse_cons, List.append_assoc,
      List.singleton_append]

/-- **The taken names stay distinct.** -/
theorem nodup_taken_allocateEach {names : Names} (h : names.taken.Nodup) (bases : List String) :
    (names.allocateEach bases).2.taken.Nodup := by
  induction bases generalizing names with
  | nil => exact h
  | cons base bases ih =>
    have htaken : (names.allocate base).2.taken.Nodup := by
      rw [taken_allocate]
      exact List.nodup_cons.2 ⟨names.fst_allocate_not_mem base, h⟩
    exact ih htaken

/-- **Names that are handed out are distinct and were free.** -/
theorem nodup_allocateEach {names : Names} (h : names.taken.Nodup) (bases : List String) :
    ((names.allocateEach bases).1 ++ names.taken).Nodup := by
  have hnodup := nodup_taken_allocateEach h bases
  rw [taken_allocateEach] at hnodup
  exact ((List.reverse_perm _).append_right _).nodup_iff.1 hnodup

/-! ### Reserving names -/

/-- Reserving a name keeps the taken ones distinct. -/
theorem nodup_taken_reserve {names : Names} (h : names.taken.Nodup) (name : String) :
    (names.reserve name).2.taken.Nodup := by
  unfold reserve
  split
  next => exact h
  next hmem => exact List.nodup_cons.2 ⟨hmem, h⟩

theorem nodup_taken_ofReserved (reserved : List String) : (ofReserved reserved).taken.Nodup := by
  suffices hfold : ∀ names : Names, names.taken.Nodup →
      (reserved.foldl (fun names name ↦ (names.reserve name).2) names).taken.Nodup from
    hfold empty List.nodup_nil
  induction reserved with
  | nil => exact fun names h ↦ h
  | cons name reserved ih => exact fun names h ↦ ih _ (nodup_taken_reserve h name)

/-- At first the reserved names are taken, and no others. -/
theorem mem_taken_ofReserved (reserved : List String) (x : String) :
    x ∈ (ofReserved reserved).taken ↔ x ∈ reserved := by
  suffices hfold : ∀ names : Names,
      x ∈ (reserved.foldl (fun names name ↦ (names.reserve name).2) names).taken ↔
        x ∈ reserved ∨ x ∈ names.taken from
    (hfold empty).trans (or_iff_left List.not_mem_nil)
  induction reserved with
  | nil => exact fun names ↦ (or_iff_right List.not_mem_nil).symm
  | cons name reserved ih =>
    intro names
    rw [List.foldl_cons, ih, mem_taken_reserve, List.mem_cons]
    tauto

end Names

/-! ### Names that are kept -/

namespace Method

/-- The names that parameters have, in order. -/
def paramNames (ps : List Param) : List String := ps.filterMap ParamOf.name

theorem paramNames_cons {p : Param} {n : String} (hn : p.name = some n) (ps : List Param) :
    paramNames (p :: ps) = n :: paramNames ps :=
  List.filterMap_cons_some hn

theorem mem_paramNames_cons {p : Param} {ps : List Param} {x : String} :
    x ∈ paramNames (p :: ps) ↔ p.name = some x ∨ x ∈ paramNames ps := by
  simp only [paramNames, List.mem_filterMap, List.exists_mem_cons_iff]

/-- The name of a parameter is taken unless it has none or is blank. -/
theorem mem_taken_keepName (names : Names) (p : Param) (x : String) :
    x ∈ (keepName names p).2.taken ↔ (p.name = some x ∧ x ≠ "_") ∨ x ∈ names.taken := by
  unfold keepName
  cases p.name with
  | none => simp
  | some name =>
    dsimp only
    split
    next hblank => simp [hblank, eq_comm]
    next hblank =>
      rw [Names.mem_taken_reserve, Option.some_inj]
      refine or_congr_left ⟨fun hx ↦ ⟨hx.symm, hx ▸ hblank⟩, fun hx ↦ hx.1.symm⟩

/-- After the first round all names of parameters are taken, except the blank one. -/
theorem mem_taken_keepNames (names : Names) (ps : List Param) (x : String) :
    x ∈ (keepNames names ps).2.taken ↔ (x ≠ "_" ∧ x ∈ paramNames ps) ∨ x ∈ names.taken := by
  induction ps generalizing names with
  | nil => simp [keepNames, paramNames]
  | cons p ps ih =>
    rw [keepNames]
    dsimp only
    rw [ih, mem_taken_keepName, mem_paramNames_cons]
    tauto

/-- A parameter keeps a name that is not blank and not taken. -/
theorem fst_keepName (names : Names) (p : Param) :
    (keepName names p).1 = true ↔ ∃ n, p.name = some n ∧ n ≠ "_" ∧ n ∉ names.taken := by
  unfold keepName
  cases p.name with
  | none => simp
  | some name =>
    dsimp only
    split
    next hblank => simp [hblank]
    next hblank => simp [Names.fst_reserve, hblank]

/-- **Which parameters keep their names**: those with a name that is not blank, was not taken at
first and is not the name of an earlier parameter. -/
theorem getElem?_keepNames (names : Names) (ps : List Param) {i : Nat} {p : Param}
    (hp : ps[i]? = some p) :
    (keepNames names ps).1[i]? = some true ↔
      ∃ n, p.name = some n ∧ n ≠ "_" ∧ n ∉ names.taken ∧ n ∉ paramNames (ps.take i) := by
  induction ps generalizing names i with
  | nil => cases hp
  | cons q ps ih =>
    cases i with
    | zero =>
      obtain rfl := Option.some.inj hp
      rw [keepNames]
      simp [fst_keepName, paramNames]
    | succ i =>
      rw [keepNames]
      simp only [List.getElem?_cons_succ] at hp ⊢
      rw [ih _ hp]
      refine exists_congr fun n ↦ and_congr_right fun _ ↦ and_congr_right fun hblank ↦ ?_
      rw [mem_taken_keepName, List.take_succ_cons, mem_paramNames_cons]
      tauto

/-! ### Names of all parameters -/

/-- The names of the parameters that keep theirs. -/
def keptNames (ps : List (Param × Bool)) : List String :=
  ps.filterMap fun p ↦ if p.2 then p.1.name else none

theorem keptNames_cons {p : Param} {n : String} (hn : p.name = some n) (ps : List (Param × Bool)) :
    keptNames ((p, true) :: ps) = n :: keptNames ps :=
  List.filterMap_cons_some hn

/-- One parameter adds its name to the taken ones if it keeps it, and changes nothing otherwise. -/
theorem keepName_cases (names : Names) (p : Param) :
    (keepName names p).1 = false ∧ (keepName names p).2.taken = names.taken ∨
      (keepName names p).1 = true ∧
        ∃ n, p.name = some n ∧ n ∉ names.taken ∧
          (keepName names p).2.taken = n :: names.taken := by
  unfold keepName
  cases p.name with
  | none => exact .inl ⟨rfl, rfl⟩
  | some name =>
    by_cases hblank : name = "_"
    · simp [hblank]
    · by_cases hmem : name ∈ names.taken <;> simp [Names.reserve, hblank, hmem]

/-- The first round takes the names that are kept. -/
theorem perm_taken_keepNames (names : Names) (ps : List Param) :
    (keepNames names ps).2.taken.Perm
      (keptNames (ps.zip (keepNames names ps).1) ++ names.taken) := by
  induction ps generalizing names with
  | nil => exact .refl _
  | cons p ps ih =>
    rw [keepNames]
    dsimp only
    refine (ih _).trans ?_
    rcases keepName_cases names p with ⟨hkept, htaken⟩ | ⟨hkept, n, hn, -, htaken⟩
    · rw [htaken, hkept, List.zip_cons_cons]
      exact .refl _
    · rw [htaken, hkept, List.zip_cons_cons, keptNames_cons hn]
      exact List.perm_middle

/-- The first round keeps the taken names distinct. -/
theorem nodup_taken_keepNames {names : Names} (h : names.taken.Nodup) (ps : List Param) :
    (keepNames names ps).2.taken.Nodup := by
  induction ps generalizing names with
  | nil => exact h
  | cons p ps ih =>
    refine @ih (keepName names p).2 ?_
    rcases keepName_cases names p with ⟨-, htaken⟩ | ⟨-, n, -, hfree, htaken⟩
    · exact htaken ▸ h
    · exact htaken ▸ List.nodup_cons.2 ⟨hfree, h⟩

/-- **The second round leaves the names of the parameters taken**, beside those that were taken for
other reasons: the kept ones were taken before, and the others are taken when they are handed
out. -/
theorem perm_taken_renameParams (names : Names) {ps : List (Param × Bool)} {rest : List String}
    (hkept : ∀ p ∈ ps, p.2 = true → p.1.name ≠ none)
    (h : names.taken.Perm (keptNames ps ++ rest)) :
    (renameParams names ps).2.taken.Perm (paramNames (renameParams names ps).1 ++ rest) := by
  induction ps generalizing names rest with
  | nil => exact h
  | cons p ps ih =>
    obtain ⟨p, kept⟩ := p
    obtain ⟨hp, hps⟩ := List.forall_mem_cons.1 hkept
    -- In both cases one more name is set aside before the rest of the parameters.
    cases kept with
    | true =>
      obtain ⟨n, hn⟩ := Option.ne_none_iff_exists'.1 (hp rfl)
      rw [keptNames_cons hn] at h
      have hrest := ih names hps (h.trans List.perm_middle.symm)
      rw [renameParams, paramNames_cons hn]
      exact hrest.trans List.perm_middle
    | false =>
      have htaken : (names.allocateFor p.bodyShape).2.taken.Perm
          (keptNames ps ++ (names.allocateFor p.bodyShape).1 :: rest) := by
        rw [Names.allocateFor, Names.taken_allocate]
        exact (h.cons _).trans List.perm_middle.symm
      rw [renameParams]
      dsimp only
      rw [paramNames_cons rfl]
      exact (ih _ hps htaken).trans List.perm_middle

/-- So does the second one. -/
theorem nodup_taken_renameParams {names : Names} (h : names.taken.Nodup)
    (ps : List (Param × Bool)) : (renameParams names ps).2.taken.Nodup := by
  induction ps generalizing names with
  | nil => exact h
  | cons p ps ih =>
    obtain ⟨p, kept⟩ := p
    cases kept with
    | true => exact ih h
    | false => exact ih (Names.nodup_taken_allocateEach h [p.bodyShape.variableName])

/-- A parameter that does not keep its name gets one that was free before the second round. -/
theorem getElem?_renameParams (names : Names) {ps : List (Param × Bool)} {i : Nat} {p : Param}
    {kept : Bool} (hp : ps[i]? = some (p, kept)) :
    ∃ q, (renameParams names ps).1[i]? = some q ∧
      if kept then q = p else ∃ n, q.name = some n ∧ n ∉ names.taken := by
  induction ps generalizing names i with
  | nil => cases hp
  | cons r ps ih =>
    obtain ⟨r, rkept⟩ := r
    cases i with
    | zero =>
      obtain ⟨rfl, rfl⟩ := Prod.mk.inj (Option.some.inj hp)
      cases rkept with
      | true => exact ⟨r, rfl, rfl⟩
      | false => exact ⟨_, rfl, _, rfl, names.fst_allocate_not_mem _⟩
    | succ i =>
      cases rkept with
      | true => exact ih names hp
      | false =>
        obtain ⟨q, hq, hname⟩ := ih (names.allocateFor r.bodyShape).2 hp
        refine ⟨q, hq, ?_⟩
        cases kept with
        | true => exact hname
        | false =>
          obtain ⟨n, hn, hfree⟩ := hname
          rw [Names.allocateFor, Names.taken_allocate, List.mem_cons, not_or] at hfree
          exact ⟨n, hn, hfree.2⟩

/-! ### Prepared methods -/

section Prepared

variable (m : Method) (package : String) (reserved : List String)

/-- The names that are taken before a method is prepared. -/
def startNames : Names := ((Names.ofReserved reserved).reserve package).2

theorem mem_taken_startNames (x : String) :
    x ∈ (startNames package reserved).taken ↔ x ∈ reserved ∨ x = package := by
  rw [startNames, Names.mem_taken_reserve, Names.mem_taken_ofReserved, or_comm]

/-- After a method was prepared, the taken names are distinct. -/
theorem nodup_taken_prepare : (m.prepare package reserved).2.taken.Nodup :=
  nodup_taken_renameParams (nodup_taken_keepNames
    (Names.nodup_taken_reserve (Names.nodup_taken_ofReserved reserved) package) _) _

/-- **Preparing a method takes the names of its parameters**, and no others. -/
theorem perm_taken_prepare : (m.prepare package reserved).2.taken.Perm
    (paramNames (m.prepare package reserved).1.params ++ (startNames package reserved).taken) := by
  refine perm_taken_renameParams _ (fun p hp ↦ ?_) (perm_taken_keepNames _ _)
  exact (List.forall₂_iff_zip.1 (forall₂_keepNames _ _)).2 hp

/-- Names that can stand side by side in a function of generated code. -/
structure Unique (package : String) (reserved names : List String) : Prop where
  /-- No two of them are the same. -/
  nodup : names.Nodup
  /-- None of them is reserved. -/
  reserved : ∀ n ∈ names, n ∉ reserved
  /-- None of them is the name of the package. -/
  package : ∀ n ∈ names, n ≠ package

/-- **Whatever is asked for after a method was prepared** is unique beside the names of its
parameters. -/
theorem unique_prepare (bases : List String) :
    Unique package reserved (paramNames (m.prepare package reserved).1.params ++
      ((m.prepare package reserved).2.allocateEach bases).1) := by
  have hnodup : (paramNames (m.prepare package reserved).1.params ++
      ((m.prepare package reserved).2.allocateEach bases).1 ++
        (startNames package reserved).taken).Nodup := by
    refine List.Perm.nodup ?_ (Names.nodup_allocateEach (nodup_taken_prepare m package reserved)
      bases)
    refine ((perm_taken_prepare m package reserved).append_left _).trans ?_
    rw [← List.append_assoc]
    exact List.perm_append_comm.append_right _
  obtain ⟨hnames, -, hdisjoint⟩ := List.nodup_append.1 hnodup
  have hfree : ∀ n ∈ paramNames (m.prepare package reserved).1.params ++
      ((m.prepare package reserved).2.allocateEach bases).1, ¬ (n ∈ reserved ∨ n = package) :=
    fun n hn hmem ↦ hdisjoint n hn n ((mem_taken_startNames package reserved n).2 hmem) rfl
  exact ⟨hnames, fun n hn ↦ (not_or.1 (hfree n hn)).1, fun n hn ↦ (not_or.1 (hfree n hn)).2⟩

variable {m package reserved} in
/-- **A parameter keeps a name that is not blank** if it was not reserved, is not the package and is
not the name of an earlier parameter, and only then. -/
theorem prepare_keeps_iff {i : Nat} {p q : Param} (hp : m.params[i]? = some p)
    (hq : (m.prepare package reserved).1.params[i]? = some q) {n : String} (hn : p.name = some n)
    (hblank : n ≠ "_") :
    q.name = some n ↔
      n ∉ reserved ∧ n ≠ package ∧ n ∉ paramNames (m.params.take i) := by
  have hp' : (m.qualified package).params[i]? =
      some { p with shape := p.shape.qualify package } := by
    rw [qualified_params, List.getElem?_map, hp, Option.map_some]
  have hearlier : paramNames ((m.qualified package).params.take i) =
      paramNames (m.params.take i) := by
    rw [qualified_params, ← List.map_take, paramNames, List.filterMap_map]
    rfl
  obtain ⟨kept, hkept⟩ : ∃ kept, (keepNames (startNames package reserved)
      (m.qualified package).params).1[i]? = some kept := by
    have hlength := (forall₂_keepNames (startNames package reserved)
      (m.qualified package).params).length_eq
    obtain ⟨hi, -⟩ := List.getElem?_eq_some_iff.1 hp'
    exact ⟨_, List.getElem?_eq_getElem (hlength ▸ hi)⟩
  -- The first round decides, and the condition is the one it checks.
  have hdecides : kept = true ↔
      n ∉ reserved ∧ n ≠ package ∧ n ∉ paramNames (m.params.take i) := by
    have hkeeps := getElem?_keepNames (startNames package reserved) _ hp'
    rw [hkept, Option.some_inj] at hkeeps
    simp only [hkeeps, hn, hearlier, mem_taken_startNames, Option.some_inj, exists_eq_left', hblank,
      not_or, ne_eq, not_false_eq_true, true_and, and_assoc]
  rw [← hdecides]
  obtain ⟨q', hq', hname⟩ := getElem?_renameParams
    (keepNames (startNames package reserved) (m.qualified package).params).2
    (List.getElem?_zip_eq_some.2 ⟨hp', hkept⟩)
  obtain rfl : q' = q := Option.some.inj (hq'.symm.trans hq)
  cases kept with
  | true => exact iff_of_true (hname ▸ hn) rfl
  | false =>
    -- A new name was free after the first round, and then every name of a parameter is taken.
    refine iff_of_false (fun hsame ↦ ?_) Bool.false_ne_true
    obtain ⟨n', hn', hfree⟩ := hname
    obtain rfl : n' = n := Option.some.inj (hn'.symm.trans hsame)
    refine hfree ((mem_taken_keepNames _ _ _).2 (.inl ⟨hblank, ?_⟩))
    exact List.mem_filterMap.2 ⟨_, List.mem_of_getElem? hp', hn⟩

end Prepared

/-- **Preparing a method names every parameter uniquely.** The parameters and results stay in order,
with qualified types. A name that is not blank is kept unless it is reserved, is the package or
occurred before. Names that are asked for afterwards, for the results or for anything else, are
unique beside those of the parameters. -/
theorem prepare_unique_names (m : Method) (package : String) (reserved : List String) :
    List.Forall₂ (fun p q ↦ q.shape = p.shape.qualify package ∧ q.variadic = p.variadic ∧
        ∃ n, q.name = some n) m.params (m.prepare package reserved).1.params ∧
      (m.prepare package reserved).1.results =
        m.results.map (fun r ↦ ⟨none, r.shape.qualify package, r.variadic⟩) ∧
      Unique package reserved (paramNames (m.prepare package reserved).1.params) ∧
      (∀ (i : Nat) (p q : Param), m.params[i]? = some p →
        (m.prepare package reserved).1.params[i]? = some q → ∀ n, p.name = some n → n ≠ "_" →
          (q.name = some n ↔
            n ∉ reserved ∧ n ≠ package ∧ n ∉ paramNames (m.params.take i))) ∧
      (∀ bases, Unique package reserved (paramNames (m.prepare package reserved).1.params ++
        ((m.prepare package reserved).2.allocateEach bases).1)) ∧
      ∀ bases, Unique package reserved (paramNames (m.prepare package reserved).1.params ++
        (((m.prepare package reserved).1.resultNames (m.prepare package reserved).2).1 ++
          (((m.prepare package reserved).1.resultNames
            (m.prepare package reserved).2).2.allocateEach bases).1)) := by
  refine ⟨?_, m.qualified_results package, ?_, fun i p q hp hq n ↦ prepare_keeps_iff hp hq,
    unique_prepare m package reserved, fun bases ↦ ?_⟩
  · have hrenamed := m.forall₂_prepare package reserved
    rw [qualified_params, List.forall₂_map_left_iff] at hrenamed
    exact hrenamed.imp fun p q h ↦ ⟨h.shape, h.variadic, h.name.imp fun n hn ↦ hn.1⟩
  · have hunique := unique_prepare m package reserved []
    rwa [Names.allocateEach, List.append_nil] at hunique
  · rw [resultNames, Names.allocateAll_eq]
    have hunique := unique_prepare m package reserved
      ((((m.prepare package reserved).1.valueResults.map (·.shape)).map Shape.variableName) ++
        bases)
    rwa [Names.allocateEach_append] at hunique

/-- A method with a parameter without a name, one with a reserved name, and one with a name that
looks like a numbered one. -/
def joiner : Method :=
  ⟨"Join", [⟨none, .primitive .string, false⟩, ⟨some "l", .primitive .string, false⟩,
    ⟨some "str2", .primitive .int, false⟩], []⟩

/-- A number that an explicit name uses up is passed over, and the explicit name is kept. -/
theorem prepare_unique_names_joiner :
    paramNames (joiner.prepare "abc" ["l"]).1.params = ["str", "str3", "str2"] ∧
      ∃ q, (joiner.prepare "abc" ["l"]).1.params[2]? = some q ∧ q.name = some "str2" := by
  refine ⟨by decide +kernel, ?_⟩
  obtain ⟨hforall, -, -, hkeeps, -⟩ := prepare_unique_names joiner "abc" ["l"]
  have hlength : 2 < (joiner.prepare "abc" ["l"]).1.params.length := hforall.length_eq ▸ by decide
  have hq := List.getElem?_eq_getElem hlength
  exact ⟨_, hq, (hkeeps 2 _ _ rfl hq "str2" rfl (by decide)).2 (by decide)⟩

end Method

end GoDecorator
