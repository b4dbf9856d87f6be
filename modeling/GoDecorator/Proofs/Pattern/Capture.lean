import GoDecorator.Proofs.Descriptor.UniqueNames
import GoDecorator.Proofs.Pattern.Retention

/-!
# Capture of packages

The body of a caching method writes the type of the result after its parameters and its local
variables are in scope. If one of these has the name of a package that the type mentions, **the type
in the body no longer means the type in the signature**. The names are chosen around the package of
the wrapped interface and around the names that the template uses, but not around the other packages
that occur in the signature, so this does happen (`mem_chosenNames_of_mem_paramNames`,
`mem_chosenNames_of_variableName`).

It happens in no other way than these: a captured package is a foreign one, and its name is the name
of a parameter or is made from the name of a type (`mem_chosenNames_cases`). Where no foreign
package of the result is called like that, no package is captured
(`disjoint_chosenNames_of_isApart`).
-/

namespace GoDecorator

/-! ### Packages in a type -/

namespace Shape

/-- The package that a type is qualified with, if it is. -/
def qualifier? : Shape → Option String
  | .named q _ => q
  | .context => some "context"
  | _ => none

/-- The packages that a type mentions, at any depth. -/
def qualifiers (s : Shape) : List String := s.parts.filterMap qualifier?

/-- Qualifying a type adds no package but the given one. -/
theorem mem_qualifiers_of_qualify {package q : String} {s : Shape}
    (h : q ∈ (s.qualify package).qualifiers) : q = package ∨ q ∈ s.qualifiers := by
  have hparts : s.Everywhere fun t ↦ ∀ x ∈ t.qualifier?, x ∈ s.qualifiers :=
    fun t ht x hx ↦ List.mem_filterMap.2 ⟨t, ht, hx⟩
  have hqualified : (s.qualify package).Everywhere fun t ↦
      ∀ x ∈ t.qualifier?, x = package ∨ x ∈ s.qualifiers := by
    refine everywhere_qualify (fun t ht x hx ↦ ?_) hparts
    cases t with
    | named p n =>
      cases p with
      | some p => exact .inr (ht x hx)
      | none =>
        refine .inl ?_
        change x ∈ (if isExported n then some package else none) at hx
        split at hx
        · exact (Option.some.inj hx).symm
        · cases hx
    | function sig => cases hx
    | _ => exact .inr (ht x hx)
  obtain ⟨t, ht, hq⟩ := List.mem_filterMap.1 h
  exact hqualified t ht q hq

end Shape

/-! ### The names of a caching method -/

/-- The text is a name as it is handed out for the given one: as it is, or with a number. -/
def IsMadeFrom (base name : String) : Prop := name = base ∨ ∃ k, name = numbered base k

namespace Pattern.Cache

open Method (paramNames)

variable {package : String} {m : Method}

/-- The type of the value that a caching method keeps, as its body writes it. -/
def kept? (package : String) (m : Method) : Option Shape :=
  (m.prepare package locals).1.results.head?.map ParamOf.shape

/-- The names that are chosen for a caching method: those of its parameters, and that of the local
variable for the value. -/
def chosenNames (package : String) (m : Method) : List String :=
  paramNames (m.prepare package locals).1.params ++
    (kept? package m).toList.map fun s ↦ ((m.prepare package locals).2.allocateFor s).1

/-- The names are those with which the template is filled in. -/
theorem method_eq {field : String} {s : Shape} (h : kept? package m = some s) :
    method package field m =
      let prepared := (m.prepare package locals).1
      renderDecl
        [("Method", .text prepared.name), ("Signature", .text prepared.signature.text),
         ("Key", .expr (key prepared)),
         ("Value", .text ((m.prepare package locals).2.allocateFor s).1), ("Result", .type s),
         ("Call", .expr (prepared.delegate "c" field prepared.callArgs)),
         ("Zero", .exprs prepared.zeroResults)]
        methodTemplate := by
  obtain ⟨r, hr, rfl⟩ := Option.map_eq_some_iff.1 h
  obtain ⟨rs, hresults⟩ := List.head?_eq_some_iff.1 hr
  have hfirst : elementAt (m.prepare package locals).1.results 0 = .ok r := by
    rw [hresults]
    rfl
  unfold method
  dsimp only
  rw [hfirst]
  exact pure_bind r _

/-- The type of the value in the body is the type of the first result. -/
theorem kept?_of_expectValueAndError (hv : m.expectValueAndError = .ok ()) (package : String) :
    ∃ r, m.results.head? = some r ∧ kept? package m = some (r.shape.qualify package) := by
  obtain ⟨r, e, hresults⟩ := exists_result_of_expectValueAndError hv
  refine ⟨r, by rw [hresults]; rfl, ?_⟩
  rw [kept?, Method.results_prepare, Method.qualified_results, hresults]
  rfl

/-- **Where the names come from.** None of them is the package or a name that the template uses.
Each is the name of a parameter, or is made from the type of a parameter or of the value. -/
theorem mem_chosenNames_cases {s : Shape} (hs : kept? package m = some s) {n : String}
    (hn : n ∈ chosenNames package m) :
    n ≠ package ∧ n ∉ locals ∧
      (n ∈ paramNames m.params ∨
        ∃ t ∈ s :: m.params.map ParamOf.bodyShape, IsMadeFrom t.variableName n) := by
  rw [chosenNames, hs] at hn
  have hunique := Method.unique_prepare m package locals [s.variableName]
  refine ⟨hunique.package n hn, hunique.reserved n hn, ?_⟩
  rcases List.mem_append.1 hn with hparam | hvalue
  · obtain ⟨q, hq, hname⟩ := List.mem_filterMap.1 hparam
    obtain ⟨p', hp', hrenamed⟩ := exists_of_mem_right (m.forall₂_prepare package locals) hq
    rw [Method.qualified_params] at hp'
    obtain ⟨p, hp, rfl⟩ := List.mem_map.1 hp'
    obtain ⟨n', hn', hsource⟩ := hrenamed.name
    obtain rfl : n' = n := Option.some.inj (hn'.symm.trans hname)
    rcases hsource with hsame | ⟨names, rfl⟩
    · exact .inl (List.mem_filterMap.2 ⟨p, hp, hsame⟩)
    · refine .inr ⟨p.bodyShape, List.mem_cons_of_mem _ (List.mem_map_of_mem hp), ?_⟩
      rw [ParamOf.bodyShape_qualify, Names.allocateFor, Shape.variableName_qualify]
      exact names.allocate_cases _
  · obtain rfl := List.mem_singleton.1 hvalue
    exact .inr ⟨s, List.mem_cons_self .., Names.allocate_cases _ _⟩

/-! ### No capture -/

/-- No foreign package in the type of the value is called like a parameter, or like a name that is
made from the type of a parameter or of the value. -/
def IsApart (package : String) (m : Method) : Prop :=
  ∀ r ∈ m.results.head?, ∀ q ∈ r.shape.qualifiers, q = package ∨ q ∈ locals ∨
    (q ∉ paramNames m.params ∧
      ∀ t ∈ r.shape :: m.params.map ParamOf.bodyShape, ¬ IsMadeFrom t.variableName q)

/-- **No package is captured if the foreign ones are apart from the method.** -/
theorem disjoint_chosenNames_of_isApart (hv : m.expectValueAndError = .ok ())
    (h : IsApart package m) :
    ∃ s, kept? package m = some s ∧ ∀ n ∈ chosenNames package m, n ∉ s.qualifiers := by
  obtain ⟨r, hr, hkept⟩ := kept?_of_expectValueAndError hv package
  refine ⟨_, hkept, fun n hn hq ↦ ?_⟩
  obtain ⟨hpackage, hlocals, hsource⟩ := mem_chosenNames_cases hkept hn
  rcases Shape.mem_qualifiers_of_qualify hq with hself | hforeign
  · exact hpackage hself
  · rcases h r hr n hforeign with hself | hlocal | ⟨hparam, hmade⟩
    · exact hpackage hself
    · exact hlocals hlocal
    · rcases hsource with hsource | ⟨t, ht, hfrom⟩
      · exact hparam hsource
      · rcases List.mem_cons.1 ht with rfl | ht
        · rw [Shape.variableName_qualify] at hfrom
          exact hmade _ (List.mem_cons_self ..) hfrom
        · exact hmade t (List.mem_cons_of_mem _ ht) hfrom

/-- A method that gets a user, whose type is in the package `models`. -/
def modelGetter : Method :=
  ⟨"Get", [⟨some "id", .primitive .string, false⟩],
    [⟨none, .named (some "models") "User", false⟩, ⟨none, .primitive .error, false⟩]⟩

/-- The names `id` and `user` leave the package `models` alone. -/
theorem disjoint_chosenNames_of_isApart_models :
    chosenNames "abc" modelGetter = ["id", "user"] ∧
      ∃ s, kept? "abc" modelGetter = some s ∧
        ∀ n ∈ chosenNames "abc" modelGetter, n ∉ s.qualifiers := by
  refine ⟨by decide +kernel, disjoint_chosenNames_of_isApart (by decide) fun r hr q hq ↦ ?_⟩
  obtain rfl := Option.some.inj hr
  obtain rfl : q = "models" := List.mem_singleton.1 hq
  -- A name with a number starts like the name without it.
  have hmade (base : String) (hne : base.toList ≠ []) (hbase : base.toList.head? ≠ some 'm') :
      ¬ IsMadeFrom base "models" := by
    obtain ⟨c, cs, hcs⟩ := List.exists_cons_of_ne_nil hne
    rintro (h | ⟨k, h⟩)
    · exact hbase (h ▸ by decide)
    · have htext := congrArg (fun text : String ↦ text.toList.head?) h
      simp only [numbered, String.toList_append, hcs, List.cons_append, List.head?_cons] at htext
      exact hbase (hcs ▸ htext.symm)
  refine .inr (.inr ⟨by decide +kernel, ?_⟩)
  simp only [modelGetter, List.map_cons, List.map_nil, List.forall_mem_cons]
  exact ⟨hmade _ (by decide +kernel) (by decide +kernel),
    hmade _ (by decide +kernel) (by decide +kernel), List.forall_mem_nil _⟩

/-! ### Capture -/

/-- A name of a parameter is the name of a first one. -/
theorem exists_first_of_mem_paramNames {ps : List Param} {n : String} (h : n ∈ paramNames ps) :
    ∃ i p, ps[i]? = some p ∧ p.name = some n ∧ n ∉ paramNames (ps.take i) := by
  induction ps with
  | nil => cases h
  | cons p ps ih =>
    by_cases hp : p.name = some n
    · exact ⟨0, p, rfl, hp, List.not_mem_nil⟩
    · obtain ⟨i, q, hq, hn, hearlier⟩ := ih ((Method.mem_paramNames_cons.1 h).resolve_left hp)
      refine ⟨i + 1, q, hq, hn, ?_⟩
      rw [List.take_succ_cons, Method.mem_paramNames_cons]
      exact not_or.2 ⟨hp, hearlier⟩

/-- **A parameter captures the foreign package that it is called like.** It keeps its name. -/
theorem mem_chosenNames_of_mem_paramNames {q : String} (hq : q ∈ paramNames m.params)
    (hblank : q ≠ "_") (hpackage : q ≠ package) (hlocals : q ∉ locals) :
    q ∈ chosenNames package m := by
  obtain ⟨i, p, hp, hname, hearlier⟩ := exists_first_of_mem_paramNames hq
  obtain ⟨hi, -⟩ := List.getElem?_eq_some_iff.1 hp
  have hget := List.getElem?_eq_getElem ((m.length_params_prepare package locals).symm ▸ hi)
  have hkeeps := (Method.prepare_keeps_iff hp hget hname hblank).2 ⟨hlocals, hpackage, hearlier⟩
  exact List.mem_append_left _ (List.mem_filterMap.2 ⟨_, List.mem_of_getElem? hget, hkeeps⟩)

/-- **The value captures the foreign package that its type is called like**, unless a parameter has
done so. -/
theorem mem_chosenNames_of_variableName {s : Shape} (hs : kept? package m = some s)
    (hpackage : s.variableName ≠ package) (hlocals : s.variableName ∉ locals) :
    s.variableName ∈ chosenNames package m := by
  by_cases hparam : s.variableName ∈ paramNames (m.prepare package locals).1.params
  · exact List.mem_append_left _ hparam
  · have hfree : s.variableName ∉ (m.prepare package locals).2.taken := by
      rw [(Method.perm_taken_prepare m package locals).mem_iff, List.mem_append,
        Method.mem_taken_startNames]
      tauto
    refine List.mem_append_right _ ?_
    simp only [hs, Option.toList_some, List.map_cons, List.map_nil, Names.allocateFor,
      Names.allocate_of_not_mem _ hfree, List.mem_singleton]

/-! ### One captured package -/

/-- A method that gets a user, whose type is in the package `user`. -/
def userGetter : Method :=
  ⟨"Get", [⟨some "id", .primitive .string, false⟩],
    [⟨none, .named (some "user") "User", false⟩, ⟨none, .primitive .error, false⟩]⟩

/-- **The local variable for the user captures its package.** -/
theorem chosenNames_userGetter :
    userGetter.expectValueAndError = .ok () ∧
      kept? "abc" userGetter = some (.named (some "user") "User") ∧
      "user" ∈ chosenNames "abc" userGetter ∧
      "user" ∈ (Shape.named (some "user") "User").qualifiers := by
  decide +kernel

end Pattern.Cache

end GoDecorator
