import GoDecorator.Pattern.Retention
import GoDecorator.Proofs.Decl.Values
import GoDecorator.Proofs.Pattern.Wrapping

/-!
# What the patterns that keep results generate

The cache writes a wrapper, the store an implementation of its own, and the file getter one
function. Of each is said under which condition its declarations are there: **exactly if the names
of the fields are identifiers and the signatures can be written** (`Cache.yields_generate`,
`Store.yields_generate`, `FileGetter.yields_generate`).

## The first of two results

All of them look at the first of two results, which is there because the condition on the input was
checked before. The check was made of the method as it was read, and preparing the method changes
nothing about the number of its results (`exists_result_qualified`).

## What is special about each

* The **file getter** makes a function of the type of the method, so that its condition is about a
  type and no longer about names: parameters lose their names on the way (`getterType`).
* The **store** names two fields after the type of the value. The name of the lock is made from that
  of the value, but it is handed out separately, and the condition keeps the two apart
  (`Store.Writable`).
* The **cache** builds its keys from the names of the parameters, which are identifiers wherever the
  signature can be written (`Cache.isPhrase_key`).

The templates are checked once for each pattern, by an instance of its class `Checked`.
-/

namespace GoDecorator.Pattern

open Template Token

variable {package field : String} {m : Method} {d : Descriptor}

/-! ### The two results -/

/-- A value and an error: there is a first result. -/
theorem exists_result_of_expectValueAndError (h : m.expectValueAndError = .ok ()) :
    ∃ r s, m.results = [r, s] := by
  unfold Method.expectValueAndError at h
  split at h
  · rename_i hlength
    exact List.length_eq_two.1 hlength
  · cases h

/-- The prepared method has the two results as well. -/
theorem exists_result_qualified (h : m.expectValueAndError = .ok ()) (package : String) :
    ∃ r s, (m.qualified package).results = [r, s] := by
  obtain ⟨r, s, hresults⟩ := exists_result_of_expectValueAndError h
  exact ⟨_, _, by rw [Method.qualified_results, hresults]; rfl⟩

/-! ### Results from a file -/

namespace FileGetter

/-- The templates are of the forms in which they are filled in. -/
class Checked : Prop where
  maker :
    IsFuncTemplate template ["FuncType", "Params", "Results", "Zero", "Value", "Target", "Loaded"]
      [.literal "func FileGetter(path string) ", .placeholder "FuncType", .literal " \x7b"]
      [("Params", .phrase), ("Results", .phrase), ("Zero", .phrase), ("Value", .label),
        ("Target", .phrase), ("Loaded", .phrase)]

set_option maxRecDepth 8000 in
instance checked : Checked where
  maker := ⟨_, rfl, by decide +kernel⟩

/-- The type of the function that is made. -/
def getterType (package : String) (m : Method) : Shape :=
  .function ⟨(m.qualified package).params.map ParamOf.withoutName, (m.qualified package).results⟩

/-- The signature of the function that makes the getter. -/
def makerSignature (package : String) (m : Method) : Signature :=
  ⟨[⟨some "path", .primitive .string, false⟩], [.unnamed (getterType package m)]⟩

/-- The names in the type of the getter are identifiers. -/
theorem proper_getterType (hm : m.WellFormed) (hp : IsName package) :
    (getterType package m).Proper := by
  have hparams : ∀ p ∈ (m.qualified package).params.map ParamOf.withoutName,
      p.name = none ∧ p.shape.Proper := by
    intro p hp
    obtain ⟨q, hq, rfl⟩ := List.mem_map.1 hp
    exact ⟨rfl, (Method.proper_params_qualified hm ‹_› q hq).1⟩
  have hresults := Method.proper_results_qualified hm hp
  refine Shape.everywhere_function.2 ⟨⟨.inr fun p hp ↦ (hparams p hp).1,
    .inr fun r hr ↦ (hresults r hr).2, fun p hp n hn ↦ ?_⟩, fun p hp ↦ (hparams p hp).2,
    fun r hr ↦ (hresults r hr).1⟩
  -- There are no names of parameters that would have to be identifiers.
  have hnone : p.name = none := by
    rcases List.mem_append.1 hp with hp | hp
    · exact (hparams p hp).1
    · exact (hresults p hp).2
  rw [hnone] at hn
  cases hn

/-- The function that makes the getter has a drafted signature. -/
theorem drafted_makerSignature (hm : m.WellFormed) (hp : IsName package) :
    (makerSignature package m).Drafted where
  params := List.forall_mem_singleton.2 ⟨"path", rfl, .inl (by decide)⟩
  results := List.forall_mem_singleton.2 rfl
  shapes := List.forall_mem_cons.2
    ⟨(by decide : (Shape.primitive .string).Legible).proper,
      List.forall_mem_singleton.2 (proper_getterType hm hp)⟩

/-- The maker of the getter can be written exactly if the type of the getter can be read. -/
theorem writable_makerSignature :
    (makerSignature package m).Writable ↔ (getterType package m).Readable := by
  have hpath : ∀ p ∈ (makerSignature package m).params, ∀ n ∈ p.name, IsName n :=
    List.forall_mem_singleton.2 fun n hn ↦ Option.some.inj hn ▸ (by decide)
  refine ⟨fun h ↦ ?_, fun h ↦ ⟨hpath, Shape.everywhere_function.2 ⟨rfl, ?_, ?_⟩⟩⟩
  · exact (Shape.everywhere_function.1 h.2).2.2 _ (List.mem_singleton_self _)
  · exact List.forall_mem_singleton.2 (by decide : (Shape.primitive .string).Legible).readable
  · exact List.forall_mem_singleton.2 h

/-- What the template is filled in with is decoded into a variable with a label for its name. -/
theorem decoding_cases {s : Shape} (hs : s.Proper) :
    (decoding s).1.Proper ∧ ∀ value, IsLabel value → IsPhrase ((decoding s).2 value).text := by
  cases s with
  | pointer t =>
    exact ⟨(Shape.everywhere_pointer.1 hs).2, fun value hv ↦
      @isPhrase_unary .amp (by decide) rfl value hv⟩
  | _ => exact ⟨hs, fun value hv ↦ hv.isPhrase⟩

/-- **The file getter** is there exactly if the type of the function can be read. -/
theorem yields_generate (hd : d.WellFormed) (hp : IsName package)
    (hv : (fileGetter package).validate d = .ok ()) :
    Yields ((fileGetter package).generate d)
      (∀ m ∈ d.methods, (getterType package m).Readable) fun ds ↦ ∀ decl ∈ ds, decl.Stable := by
  obtain ⟨m, hmethods, hcheck⟩ := d.of_singleMethod hv
  have hm : m.WellFormed := hd.methods m (hmethods ▸ List.mem_singleton_self m)
  obtain ⟨r, s, hresults⟩ := exists_result_qualified hcheck package
  have hproper := Method.proper_results_qualified hm hp
  have hdecoding := decoding_cases (hproper r (hresults ▸ List.mem_cons_self ..)).1
  rw [hmethods]
  refine @Yields.after _ _ _ _ _ _ m (by rw [d.singleMethod_eq hmethods]; rfl) ?_
  refine @Yields.after _ _ _ _ _ _ r (by rw [hresults]; rfl) ?_
  refine Yields.congr ((@yields_func _ _ _ _ checked.maker _ rfl none "FileGetter"
    (makerSignature package m) ?_ (by simp) (by decide) ?_ fun _ ↦ ?_).bind
    fun f _ hf ↦ yields_pure (List.forall_mem_singleton.2 hf.2)) ?_
  · simp [headText, makerSignature, SignatureOf.text, paramListText, resultListText, resultList,
      standsAlone, commaSeparated, ParamOf.text, ParamOf.unnamed, getterType, Value.type,
      Value.render, Snippet.text, Shape.text, Primitive.text, ← String.toList_inj]
  · exact drafted_makerSignature hm hp
  · have hlabel := fun names : Names ↦
      names.isLabel_allocate (Shape.isLabel_variableName hdecoding.1)
    have hblank : ∀ p ∈ (m.qualified package).params.map fun p ↦
        ({ p with name := some "_" } : Param), IsPhrase p.text := by
      intro p hp
      obtain ⟨q, hq, rfl⟩ := List.mem_map.1 hp
      exact isPhrase_param (fun n hn ↦ Option.some.inj hn ▸ (by decide))
        (Method.proper_params_qualified hm ‹_› q hq).1
    simp only [List.forall_mem_cons]
    exact ⟨isPhrase_params hblank, isPhrase_resultListText hproper,
      isPhrase_exprs (Method.isPhrase_zeroResults fun r hr ↦ (hproper r hr).1), hlabel _,
      Shape.isPhrase_text hdecoding.1, hdecoding.2 _ (hlabel _), List.forall_mem_nil _⟩
  · rw [and_true, writable_makerSignature, List.forall_mem_singleton]

end FileGetter

/-! ### A store that is loaded again and again -/

namespace Store

/-- The pieces of the head of the constructor, where those of its results are given. -/
def constructorPieces (results : String) : List Piece :=
  [.literal "func New(repo ", .placeholder "Iface",
    .literal (", interval time.Duration) " ++ results ++ " \x7b")]

/-- The templates are of the forms in which they are filled in. -/
class Checked : Prop where
  struct :
    IsWholeTemplate structTemplate ["Iface", "Lock", "Value", "Result"] ['\n']
      [.literal "type Store struct \x7b\n\trepo ", .placeholder "Iface",
        .literal "\n\tinterval time.Duration\n\t", .placeholder "Lock",
        .literal " sync.RWMutex\n\t", .placeholder "Value", .literal " ", .placeholder "Result",
        .literal "\n\x7d"]
  abortingConstructor :
    IsFuncTemplate abortingConstructorTemplate ["Iface"] (constructorPieces "*Store") []
  failingConstructor :
    IsFuncTemplate failingConstructorTemplate ["Iface"] (constructorPieces "(*Store, error)") []
  loop :
    IsFuncTemplate loopTemplate [] [.literal "func (s *Store) loop() \x7b"] []
  load :
    IsFuncTemplate loadTemplate ["Value", "Lock", "Method", "Args"]
      [.literal "func (s *Store) load() error \x7b"]
      [("Value", .name), ("Lock", .name), ("Method", .name), ("Args", .phrase)]
  getter :
    IsFuncTemplate getterTemplate ["Method", "Signature", "Lock", "Value"]
      (methodHead [.literal "func (s *Store) "]) [("Lock", .name), ("Value", .name)]

set_option maxRecDepth 8000 in
instance checked : Checked where
  struct := ⟨_, rfl, by decide +kernel⟩
  abortingConstructor := ⟨_, rfl, by decide +kernel⟩
  failingConstructor := ⟨_, rfl, by decide +kernel⟩
  loop := ⟨_, rfl, by decide +kernel⟩
  load := ⟨_, rfl, by decide +kernel⟩
  getter := ⟨_, rfl, by decide +kernel⟩

theorem isName_store : IsName "Store" := by decide

/-- The receiver of the methods. -/
theorem receiverOk_self : ∀ r ∈ some (selfOf "s" "Store"), ReceiverOk r :=
  fun _ h ↦ Option.some.inj h ▸ receiverOk_selfOf (by decide) isName_store

/-- The constructor is always there. -/
theorem yields_constructor (mode : Mode) {iface : Shape} (h : iface.Legible) :
    Yields (renderDecl [("Iface", .type iface)] (constructorTemplate mode)) True Decl.Stable := by
  have hparams : ∀ p ∈ [(⟨some "repo", iface, false⟩ : Param),
      ⟨some "interval", .named (some "time") "Duration", false⟩], p.IsFixed :=
    List.forall_mem_cons.2 ⟨isFixed_of_isName (by decide) h, by decide⟩
  have hnames : ∀ p ∈ [(⟨some "repo", iface, false⟩ : Param),
      ⟨some "interval", .named (some "time") "Duration", false⟩], ∀ n ∈ p.name, IsName n := by
    intro p hp n hn
    obtain ⟨n', hn', hname⟩ := (hparams p hp).exists_isName
    exact Option.some.inj (hn'.symm.trans hn) ▸ hname
  have hpointer := plainResult_pointer isName_store
  cases mode with
  | abort =>
    refine Yields.congr (@yields_plain_func _ _ _ _ _ checked.abortingConstructor rfl none
      "New" _ [.unnamed (.pointer (.named none "Store"))] ?_ (by simp) (by decide)
      (fun p hp ↦ (hparams p hp).plain) (List.forall_mem_singleton.2 hpointer) (by simp))
      (iff_of_true trivial hnames)
    simp [constructorPieces, headText, SignatureOf.text, paramListText, resultListText, resultList,
      standsAlone, commaSeparated, ParamOf.text, ParamOf.unnamed, Value.type, Value.render,
      Snippet.text, Shape.text, ← String.toList_inj]
  | withError =>
    refine Yields.congr (@yields_plain_func _ _ _ _ _ checked.failingConstructor rfl none
      "New" _ [.unnamed (.pointer (.named none "Store")), .unnamed (.primitive .error)] ?_ (by simp)
      (by decide) (fun p hp ↦ (hparams p hp).plain)
      (List.forall_mem_cons.2 ⟨hpointer, List.forall_mem_singleton.2 ⟨rfl, rfl, by decide⟩⟩)
      (by simp)) (iff_of_true trivial hnames)
    simp [constructorPieces, headText, SignatureOf.text, paramListText, resultListText, resultList,
      standsAlone, commaSeparated, ParamOf.text, ParamOf.unnamed, Value.type, Value.render,
      Snippet.text, Shape.text, Primitive.text, ← String.toList_inj]

/-- The loop is always there. -/
theorem yields_loop : Yields (renderDecl [] loopTemplate) True Decl.Stable :=
  Yields.congr (@yields_plain_func _ _ _ _ _ checked.loop rfl (some (selfOf "s" "Store"))
    "loop" [] [] (by simp; rfl) receiverOk_self (by decide) (by simp) (by simp) (by simp))
    (by simp)

/-- The function that loads the result is there if the names it uses are identifiers. -/
theorem yields_load {value lock method : String} {args : List Expr} (hv : IsName value)
    (hl : IsName lock) (hm : IsName method) (ha : ∀ a ∈ args, IsPhrase a.text) :
    Yields (renderDecl [("Value", .text value), ("Lock", .text lock), ("Method", .text method),
      ("Args", .exprs args)] loadTemplate) True Decl.Stable := by
  refine Yields.congr (@yields_plain_func _ _ _ _ _ checked.load rfl
    (some (selfOf "s" "Store")) "load" [] [.unnamed (.primitive .error)] (by simp; rfl)
    receiverOk_self (by decide) (by simp)
    (List.forall_mem_singleton.2 ⟨rfl, rfl, by decide⟩) fun _ ↦ ?_) (by simp)
  simp only [List.forall_mem_cons]
  exact ⟨hv, hl, hm, isPhrase_exprs ha, List.forall_mem_nil _⟩

/-- The arguments of the call that loads the result. -/
theorem exists_loadArgs (m : Method) :
    ∃ args, loadArgs m = .ok args ∧ ∀ a ∈ args, IsPhrase a.text := by
  unfold loadArgs
  split
  · have hcontext : IsName "context" := by decide
    have hbackground : IsName "Background" := by decide
    have htext : (callOf "context" "Background" none).text = "context.Background()" := by
      simp [callOf, Expr.text, Expr.argTexts, commaSeparated]
    have hread := @read_call "context" "Background" none hcontext hbackground (by simp)
    rw [htext] at hread
    refine ⟨[_], by rw [hread]; rfl, List.forall_mem_singleton.2 ?_⟩
    exact ⟨_, atomsText_callAtoms .., phrase_callAtoms hcontext hbackground (by simp)⟩
  · exact ⟨[], rfl, by simp⟩

/-- The names that are taken where the value and its lock are named. -/
def names (package : String) : Names := ((Names.ofReserved locals).reserve package).2

/-- The name for a value of the given type. -/
def valueName (package : String) (result : Shape) : String :=
  ((names package).allocateFor result).1

/-- The name for the lock of a value of the given type. -/
def lockName (package : String) (result : Shape) : String :=
  (((names package).allocateFor result).2.allocate (valueName package result ++ "Lock")).1

/-- The fields of the struct. -/
def fields (iface : Shape) (value lock : String) (result : Shape) : List Field :=
  [⟨"repo", iface⟩, ⟨"interval", .named (some "time") "Duration"⟩,
    ⟨lock, .named (some "sync") "RWMutex"⟩, ⟨value, result⟩]

/-- The struct is there exactly if the names of its fields are identifiers and the type of the
result can be read. -/
theorem yields_struct {iface result : Shape} {value lock : String} (hi : iface.Legible)
    (hv : IsLabel value) (hl : IsLabel lock) (hr : result.Proper) :
    Yields (renderDecl [("Iface", .type iface), ("Lock", .text lock), ("Value", .text value),
      ("Result", .type result)] structTemplate)
      (IsName lock ∧ IsName value ∧ result.Readable) Decl.Stable := by
  have hinterval : (Shape.named (some "time") "Duration").Legible := by decide
  have hmutex : (Shape.named (some "sync") "RWMutex").Legible := by decide
  have hfields : ∀ f ∈ fields iface value lock result, IsLabel f.name ∧ f.shape.Proper := by
    simp only [fields, List.forall_mem_cons]
    exact ⟨⟨.inl (by decide), hi.proper⟩, ⟨.inl (by decide), hinterval.proper⟩,
      ⟨hl, hmutex.proper⟩, ⟨hv, hr⟩, List.forall_mem_nil _⟩
  refine Yields.congr ((GoDecorator.yields_struct checked.struct rfl ?_ isName_store
    (List.cons_ne_nil _ _) hfields).mono fun _ h ↦ h.2) ?_
  · simp [structText, Field.text, padRight, Value.type, Value.render, Snippet.text,
      Shape.text, ← String.toList_inj]
  · simp only [List.forall_mem_cons]
    exact ⟨fun h ↦ ⟨⟨by decide, hi.readable⟩, ⟨by decide, hinterval.readable⟩,
      ⟨h.1, hmutex.readable⟩, h.2, List.forall_mem_nil _⟩, fun h ↦ ⟨h.2.2.1.1, h.2.2.2.1⟩⟩

/-- What the store depends on: the names of its fields, the type of the value, and the signature of
its method. -/
def Writable (package : String) (m : Method) : Prop :=
  (∀ r ∈ (m.qualified package).results.head?, IsName (lockName package r.shape) ∧
    IsName (valueName package r.shape) ∧ r.shape.Readable) ∧
    (m.prepare package locals).1.signature.Writable

/-- The pattern applies to one method with a value and an error. -/
theorem exists_method_of_validate {mode : Mode} (hv : (store mode package).validate d = .ok ()) :
    ∃ m, d.methods = [m] ∧ m.expectValueAndError = .ok () := by
  obtain ⟨m, hmethods, hchecks⟩ := d.of_singleMethod hv
  obtain ⟨_, -, hcheck⟩ := exists_of_bind_eq_ok hchecks
  exact ⟨m, hmethods, hcheck⟩

/-- **The store** is there exactly if the names of its fields are identifiers and the signature of
its method can be written. -/
theorem yields_generate (mode : Mode) (hd : d.WellFormed) (hp : IsName package)
    (hv : (store mode package).validate d = .ok ()) :
    Yields ((store mode package).generate d) (∀ m ∈ d.methods, Writable package m)
      fun ds ↦ ∀ decl ∈ ds, decl.Stable := by
  obtain ⟨m, hmethods, hcheck⟩ := exists_method_of_validate hv
  have hm : m.WellFormed := hd.methods m (hmethods ▸ List.mem_singleton_self m)
  obtain ⟨r, s, hresults⟩ := exists_result_qualified hcheck package
  have hs := Method.drafted_prepare hm hp locals
  have hmem : r ∈ (m.prepare package locals).1.results := by
    rw [Method.results_prepare, hresults]
    exact List.mem_cons_self ..
  have hresult := hs.proper_results r hmem
  have hvalue : IsLabel (valueName package r.shape) :=
    (names package).isLabel_allocate (Shape.isLabel_variableName hresult)
  have hlock : IsLabel (lockName package r.shape) :=
    Names.isLabel_allocate _ (hvalue.append (by decide) ⟨'L', by decide, by decide⟩)
  have hiface := d.legible_wrapped hd.name hp
  obtain ⟨args, hargs, hphrases⟩ := exists_loadArgs (m.prepare package locals).1
  rw [hmethods, List.forall_mem_singleton, Writable, hresults]
  refine @Yields.after _ _ _ _ _ _ m (by rw [d.singleMethod_eq hmethods]; rfl) ?_
  refine @Yields.after _ _ _ _ _ _ r (by rw [Method.results_prepare, hresults]; rfl) ?_
  refine Yields.after hargs (Yields.congr ((yields_struct hiface hvalue hlock hresult).bind
    fun struct hnames hstruct ↦ ?_) (and_congr_left' (by simp)))
  -- Once the names are identifiers, only the signature of the method can stand in the way.
  obtain ⟨constructor, hconstructor, hc⟩ := (yields_constructor mode hiface).answer trivial
  obtain ⟨loop, hloop, hl⟩ := yields_loop.answer trivial
  obtain ⟨load, hload, ho⟩ := (yields_load hnames.2.1 hnames.1 hm.1 hphrases).answer trivial
  refine Yields.after hconstructor (Yields.after hloop (Yields.after hload ?_))
  have hreceiver : IsName "s" := by decide
  refine Yields.bind_true (@GoDecorator.yields_method _ _ _ _ checked.getter _ rfl "s" "Store" _
    (by simp) rfl rfl hreceiver isName_store hm.1 hs fun _ ↦ ?_) fun getter _ hg ↦ yields_pure ?_
  · simp only [List.forall_mem_cons]
    exact ⟨hnames.1, hnames.2.1, List.forall_mem_nil _⟩
  · simp only [List.forall_mem_cons]
    exact ⟨hstruct, hc, hl, ho, hg.2, List.forall_mem_nil _⟩

end Store

/-! ### A cache -/

namespace Cache

/-- The templates are of the forms in which they are filled in. -/
class Checked : Prop where
  struct :
    IsWholeTemplate structTemplate ["Field", "Iface"] ['\n']
      (structPieces [.literal "Cache"] [.literal "\tcache *cache.Cache\n"])
  constructor :
    IsFuncTemplate constructorTemplate ["Field", "Iface"]
      (constructorHead []
        [.literal ", expiration time.Duration, cleanupInterval time.Duration"]
        [.literal "Cache"])
      [("Field", .name)]
  method :
    IsFuncTemplate methodTemplate
      ["Method", "Signature", "Key", "Value", "Result", "Call", "Zero"]
      (methodHead [.literal "func (c *Cache) "])
      [("Key", .phrase), ("Value", .label), ("Result", .phrase), ("Call", .phrase),
        ("Zero", .phrase)]

set_option maxRecDepth 8000 in
instance checked : Checked where
  struct := ⟨_, rfl, by decide +kernel⟩
  constructor := ⟨_, rfl, by decide +kernel⟩
  method := ⟨_, rfl, by decide +kernel⟩

/-- The key of a call is a phrase. -/
theorem isPhrase_key (hs : m.signature.Drafted) (hw : m.signature.Writable) :
    IsPhrase (key m).text := by
  unfold key
  split
  · rename_i name heq
    obtain ⟨n, hname, hisName⟩ := Method.exists_isName hs hw ⟨name, .primitive .string, false⟩
      (Method.mem_params_of_mem_payloadParams (heq ▸ List.mem_singleton_self _))
    rw [show name = some n from hname]
    exact hisName.isPhrase
  · exact @isPhrase_quoted "key" (by decide)

/-- **A method of the cache** is there exactly if its signature can be written. -/
theorem yields_method (hm : m.WellFormed) (hp : IsName package) (hf : IsName field)
    (hv : m.expectValueAndError = .ok ()) :
    Yields (method package field m) (m.prepare package locals).1.signature.Writable fun d ↦
      IsMethodOf "c" "Cache" (m.prepare package locals).1 d ∧ d.Stable := by
  unfold method
  have hs := Method.drafted_prepare hm hp locals
  have hn : IsName (m.prepare package locals).1.name := hm.1
  obtain ⟨r, s, hresults⟩ := exists_result_qualified hv package
  rw [← Method.results_prepare m package locals] at hresults
  generalize m.prepare package locals = prepared at hs hn hresults ⊢
  obtain ⟨m, names⟩ := prepared
  dsimp only at hs hn hresults ⊢
  have hreceiver : IsName "c" := by decide
  have hmem : r ∈ m.results := hresults ▸ List.mem_cons_self ..
  have hresult := hs.proper_results r hmem
  refine @Yields.after _ _ _ _ _ _ r (by rw [hresults]; rfl) ?_
  refine GoDecorator.yields_method checked.method rfl (by simp) rfl rfl hreceiver
    (by decide) hn hs fun hw ↦ ?_
  simp only [List.forall_mem_cons]
  exact ⟨isPhrase_key hs hw, names.isLabel_allocate (Shape.isLabel_variableName hresult),
    Shape.isPhrase_text hresult, Method.isPhrase_delegate_callArgs hs hw hreceiver hf hn,
    isPhrase_exprs (Method.isPhrase_zeroResults hs.proper_results), List.forall_mem_nil _⟩

/-- **The cache** is there exactly if the name of its field is an identifier and the signatures of
its methods can be written. -/
theorem yields_generate (hd : d.WellFormed) (hp : IsName package)
    (hv : (cache package).validate d = .ok ()) :
    Yields ((cache package).generate d)
      (IsName (d.fieldName ["cache", "expiration", "cleanupInterval", "time"]) ∧
        ∀ m ∈ d.methods, (m.prepare package locals).1.signature.Writable)
      (Wraps "c" "Cache" (d.methods.map fun m ↦ (m.prepare package locals).1)) := by
  have hlabel := d.isLabel_fieldName hd.name ["cache", "expiration", "cleanupInterval", "time"]
  have hiface := d.legible_wrapped hd.name hp
  have hname : IsName "Cache" := by decide
  refine yields_wrapper ?_ ?_ fun hf m hm ↦
    yields_method (hd.methods m hm) hp hf (d.of_forEachMethod hv m hm)
  · exact @yields_struct_field _ _ _ _ _ checked.struct rfl _ _ _
      [⟨"cache", .pointer (.named (some "cache") "Cache")⟩] (by simp) rfl rfl
      (by simp; decide) hname hlabel hiface (by decide)
  · exact @yields_constructor _ _ _ _ _ _ _ checked.constructor rfl "" _ "Cache" _
      [⟨some "expiration", .named (some "time") "Duration", false⟩,
        ⟨some "cleanupInterval", .named (some "time") "Duration", false⟩] (by simp) rfl rfl
      (by simp; decide) (by simp) (by decide) hname hlabel hiface
      (by decide) fun hf ↦ List.forall_mem_singleton.2 hf

end Cache

end GoDecorator.Pattern
