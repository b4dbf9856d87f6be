import Mathlib.Data.List.Nodup
import Mathlib.Data.List.Pairwise
import GoDecorator.Proofs.Pattern.Observation
import GoDecorator.Proofs.Template.Strings
import GoDecorator.Proofs.Text.Words

/-!
# Keys of metrics

The wrapper that counts calls writes a key for the calls of each method, one for their durations,
and one for failures if the method can fail (`keys`).

## Keys and words

A key is made of the words of the interface and of the method (`words`), and the last two kinds have
`seconds` and `error` for one word more. No word has an underscore in it, so the words can be told
from the key again (`keyOf_inj`), and **the keys are distinct exactly if no two of them come to the
same words** (`nodup_keys_iff`). The keys of one method are always distinct; those of two methods
meet if the methods have the same words, or if one of them has those of the other and one of the two
endings (`WordsApart`). So methods with different names can share a key (`metric_keys_meet`).

## Keys in the wrapper

The keys are the string literals of the wrapper, each of them once and in the order of the methods
(`strings_generate`). Its templates have no other ones, and no quote is put into their holes: a call
is made of names, points and brackets (`isUnquoted_delegate`).

This is a statement about what is generated, so it holds where anything is; that there is something
for the two descriptors of the examples is shown with them (`exists_generate_plainInterface`).
-/

namespace GoDecorator.Pattern

open Template Token

namespace Metrics

/-! ### Keys -/

/-- The keys of a method: for its calls, for their durations, and for failures if it can fail. -/
def methodKeys (interface : String) (m : Method) : List String :=
  measureName interface m.name :: (measureName interface m.name ++ "_seconds") ::
    if m.returnsError then [measureName interface m.name ++ "_error"] else []

/-- The keys of all methods. -/
def keys (d : Descriptor) : List String := d.methods.flatMap (methodKeys d.name)

/-- **No two keys come to the same words.** Upper and lower case do not count, and neither does how
the words are set apart from each other. -/
structure WordsApart (ms : List Method) : Prop where
  /-- No two methods have the same words. -/
  names : (ms.map fun m ↦ words m.name).Nodup
  /-- No method has the words of another one and `seconds`. -/
  seconds : ∀ m ∈ ms, ∀ m' ∈ ms, words m'.name ≠ words m.name ++ ["seconds".toList]
  /-- No method has the words of one that can fail and `error`. -/
  errors : ∀ m ∈ ms, m.returnsError = true →
    ∀ m' ∈ ms, words m'.name ≠ words m.name ++ ["error".toList]

/-- The words of the keys of a method, after those of the interface. -/
def keyWords (m : Method) : List (List (List Char)) :=
  words m.name :: (words m.name ++ ["seconds".toList]) ::
    if m.returnsError then [words m.name ++ ["error".toList]] else []

/-- The key of an interface and further words. -/
def keyOf (interface : String) (ws : List (List Char)) : String :=
  snakeCase interface ++ "_" ++ String.ofList (joinWords ws)

theorem keyOf_inj {interface : String} {ws vs : List (List Char)} (hws : ws ≠ []) (hvs : vs ≠ [])
    (hw : ∀ w ∈ ws, '_' ∉ w) (hv : ∀ v ∈ vs, '_' ∉ v) :
    keyOf interface ws = keyOf interface vs ↔ ws = vs := by
  rw [← joinWords_inj hws hvs hw hv]
  simp [keyOf, ← String.toList_inj]

theorem methodKeys_eq (interface : String) (m : Method) :
    methodKeys interface m = (keyWords m).map (keyOf interface) := by
  have hne := words_ne_nil m.name
  have hname : String.ofList (joinWords (words m.name)) = snakeCase m.name := by
    rw [← toList_snakeCase, String.ofList_toList]
  have hrole (role : List Char) :
      String.ofList (joinWords (words m.name ++ [role])) =
        snakeCase m.name ++ String.ofList ('_' :: role) := by
    rw [joinWords_concat hne, ← toList_snakeCase, String.ofList_append, String.ofList_toList]
  unfold methodKeys keyWords
  cases m.returnsError <;>
    simp [keyOf, measureName, hname, hrole, String.append_assoc]

/-- The words of keys can be told from the keys. -/
theorem keyWords_clean {m : Method} : ∀ ws ∈ keyWords m, ws ≠ [] ∧ ∀ w ∈ ws, '_' ∉ w := by
  have hwords := @underscore_not_mem_words m.name
  have hrole {role : List Char} (hr : '_' ∉ role) : words m.name ++ [role] ≠ [] ∧
      ∀ w ∈ words m.name ++ [role], '_' ∉ w :=
    ⟨by simp, List.forall_mem_append.2 ⟨hwords, List.forall_mem_singleton.2 hr⟩⟩
  refine List.forall_mem_cons.2 ⟨⟨words_ne_nil m.name, hwords⟩,
    List.forall_mem_cons.2 ⟨hrole (by decide), ?_⟩⟩
  split
  · exact List.forall_mem_singleton.2 (hrole (by decide))
  · exact List.forall_mem_nil _

theorem mem_keyWords {m : Method} {ws : List (List Char)} : ws ∈ keyWords m ↔
    ws = words m.name ∨ ws = words m.name ++ ["seconds".toList] ∨
      (m.returnsError = true ∧ ws = words m.name ++ ["error".toList]) := by
  unfold keyWords
  split <;> simp [*]

theorem nodup_keyWords (m : Method) : (keyWords m).Nodup := by
  unfold keyWords
  split <;> simp

theorem keys_eq (d : Descriptor) : keys d = (d.methods.flatMap keyWords).map (keyOf d.name) := by
  rw [List.map_flatMap, keys]
  exact List.flatMap_congr fun m _ ↦ methodKeys_eq d.name m

/-- The keys are distinct exactly if their words are. -/
theorem nodup_keys_iff_words (d : Descriptor) :
    (keys d).Nodup ↔ (d.methods.flatMap keyWords).Nodup := by
  rw [keys_eq]
  refine ⟨List.Nodup.of_map _, fun h ↦ h.map_on fun ws hws vs hvs heq ↦ ?_⟩
  obtain ⟨m, -, hm⟩ := List.mem_flatMap.1 hws
  obtain ⟨m', -, hm'⟩ := List.mem_flatMap.1 hvs
  obtain ⟨hne, hclean⟩ := keyWords_clean ws hm
  obtain ⟨hne', hclean'⟩ := keyWords_clean vs hm'
  exact (keyOf_inj hne hne' hclean hclean').1 heq

/-- Different methods have no words of keys in common. -/
theorem disjoint_keyWords {ms : List Method} (h : (ms.flatMap keyWords).Nodup) {m m' : Method}
    (hm : m ∈ ms) (hm' : m' ∈ ms) (hne : m ≠ m') : (keyWords m).Disjoint (keyWords m') := by
  have : Std.Symm (Function.onFun List.Disjoint keyWords) := ⟨fun _ _ ↦ List.disjoint_symm⟩
  exact (List.nodup_flatMap.1 h).2.forall hm hm' hne

theorem wordsApart_of_nodup {ms : List Method} (h : (ms.flatMap keyWords).Nodup) :
    WordsApart ms := by
  have hlonger (role : List Char) (m : Method) (hm : m ∈ ms)
      (hrole : words m.name ++ [role] ∈ keyWords m) (m' : Method) (hm' : m' ∈ ms) :
      words m'.name ≠ words m.name ++ [role] := by
    intro heq
    by_cases hsame : m = m'
    · subst hsame
      simp at heq
    · exact disjoint_keyWords h hm hm' hsame hrole (mem_keyWords.2 (.inl heq.symm))
  refine ⟨List.pairwise_map.2 ((List.nodup_flatMap.1 h).2.imp fun hd heq ↦ ?_), fun m hm ↦ ?_,
    fun m hm he ↦ ?_⟩
  · exact hd (mem_keyWords.2 (.inl rfl)) (mem_keyWords.2 (.inl heq))
  · exact hlonger _ m hm (mem_keyWords.2 (.inr (.inl rfl)))
  · exact hlonger _ m hm (mem_keyWords.2 (.inr (.inr ⟨he, rfl⟩)))

theorem nodup_of_wordsApart {ms : List Method} (h : WordsApart ms) :
    (ms.flatMap keyWords).Nodup := by
  refine List.nodup_flatMap.2 ⟨fun m _ ↦ nodup_keyWords m, ?_⟩
  refine (List.pairwise_map.1 h.names).imp_of_mem fun {m m'} hm hm' hne ↦ ?_
  refine List.disjoint_left.2 fun ws hws hws' ↦ ?_
  rcases mem_keyWords.1 hws with rfl | rfl | ⟨he, rfl⟩
  · rcases mem_keyWords.1 hws' with heq | heq | ⟨he', heq⟩
    · exact hne heq
    · exact h.seconds m' hm' m hm heq
    · exact h.errors m' hm' he' m hm heq
  · rcases mem_keyWords.1 hws' with heq | heq | ⟨-, heq⟩
    · exact h.seconds m hm m' hm' heq.symm
    · exact hne (List.append_cancel_right heq)
    · simp at heq
  · rcases mem_keyWords.1 hws' with heq | heq | ⟨-, heq⟩
    · exact h.errors m hm he m' hm' heq.symm
    · simp at heq
    · exact hne (List.append_cancel_right heq)

/-- **The keys are distinct exactly if no two of them come to the same words.** -/
theorem nodup_keys_iff (d : Descriptor) : (keys d).Nodup ↔ WordsApart d.methods :=
  (nodup_keys_iff_words d).trans ⟨wordsApart_of_nodup, nodup_of_wordsApart⟩

/-! ### String literals of the wrapper -/

/-- The string literals of the templates. -/
class Literals : Prop where
  constructor :
    HasStrings constructorTemplate ["Type", "Field", "Iface"]
      (constructorHead [.placeholder "Type"] [] [.placeholder "Type"])
      [("Type", .name), ("Field", .name)] []
  method :
    HasStrings methodTemplate
      ["Recv", "Type", "Method", "Signature", "Backend", "Measure", "Forward"]
      (methodHead methodLead) [("Backend", .name), ("Measure", .quotable), ("Forward", .phrase)]
      [.quote (some "Measure") "", .quote (some "Measure") "_seconds"]
  errorMethod :
    HasStrings errorMethodTemplate
      ["Recv", "Type", "Method", "Signature", "Backend", "Measure", "Results", "Call"]
      (methodHead methodLead)
      [("Backend", .name), ("Measure", .quotable), ("Results", .phrase), ("Call", .phrase)]
      [.quote (some "Measure") "", .quote (some "Measure") "_seconds",
        .quote (some "Measure") "_error"]

set_option maxRecDepth 8000 in
instance literals : Literals where
  constructor := ⟨_, rfl, by decide +kernel⟩
  method := ⟨_, rfl, by decide +kernel⟩
  errorMethod := ⟨_, rfl, by decide +kernel⟩

variable {backend package receiver field : String} {m : Method} {d : Descriptor}

/-- No quote stands in the call of a method that passes all parameters on. -/
theorem isUnquoted_delegate (hs : m.signature.Drafted) (hw : m.signature.Writable)
    (hr : IsName receiver) (hf : IsName field) (hn : IsName m.name) :
    isUnquoted (m.delegate receiver field m.callArgs).text.toList = true := by
  have hname {name : String} (h : IsName name) : isUnquoted name.toList = true :=
    isUnquoted_of_isNameText h.isNameText
  have hargs : ∀ t ∈ m.callArgs.map Expr.text, isUnquoted t.toList = true := by
    intro t ht
    obtain ⟨a, ha, rfl⟩ := List.mem_map.1 ht
    obtain ⟨p, hp, rfl⟩ := List.mem_map.1 ha
    obtain ⟨n, hn, hisName⟩ := Method.exists_isName hs hw p hp
    unfold Method.argumentFor
    rw [hn]
    split
    · simp only [Option.getD_some, Expr.text, String.toList_append, isUnquoted_append,
        hname hisName]
      decide
    · exact hname hisName
  have hlist := isUnquoted_commaSeparated hargs
  simp only [Method.delegate, Expr.text, Expr.argTexts_eq_map, String.toList_append,
    isUnquoted_append, hname hr, hname hf, hname hn, hlist]
  decide

theorem isUnquoted_forward {call : Expr} (h : isUnquoted call.text.toList = true) :
    isUnquoted (m.forward call).toList = true := by
  unfold Method.forward
  split
  · exact h
  · rw [String.toList_append, isUnquoted_append, h]
    decide

/-- A text as a string literal. -/
def quoted (text : String) : String := "\"" ++ text ++ "\""

/-- **The string literals of a generated method are its keys.** -/
theorem strings_method (hb : IsName backend) (hd : IsName d.name) (hm : m.WellFormed)
    (hp : IsName package) (hr : IsName receiver) (hf : IsName field) {decl : Decl}
    (h : (method backend package d receiver field m).outcome = .ok decl) :
    decl.strings = (methodKeys d.name m).map quoted := by
  have hw := (yields_method hb hd hm hp hr hf).cond_of_answer h
  have hs := Method.drafted_prepare hm hp (locals backend receiver)
  have hn : IsName (m.prepare package (locals backend receiver)).1.name := hm.1
  have hkeys : methodKeys d.name m =
      methodKeys d.name (m.prepare package (locals backend receiver)).1 := by
    simp [methodKeys]
  rw [hkeys]
  unfold method at h
  unfold locals at hw hs hn ⊢
  generalize m.prepare package [receiver, backend, "time", "err"] = prepared at h hw hs hn ⊢
  obtain ⟨m, names⟩ := prepared
  dsimp only at h hw hs hn ⊢
  have hself : ∀ r ∈ some (selfOf receiver d.name), ReceiverOk r :=
    fun _ h ↦ Option.some.inj h ▸ receiverOk_selfOf hr hd
  have hbackend := isUnquoted_of_isNameText hb.isNameText
  have hcall := isUnquoted_delegate hs hw hr hf hn
  have hphrase := Method.isPhrase_delegate_callArgs hs hw hr hf hn
  have hmeasure := isQuotable_measureName hd hn
  split at h
  next he =>
    have hresults : ∀ n ∈ (m.resultNames names).1 ++ ["err"], isUnquoted n.toList = true :=
      List.forall_mem_append.2 ⟨fun n hn ↦ (Method.isLabel_resultNames hs names n hn).isUnquoted,
        List.forall_mem_singleton.2 (by decide)⟩
    refine (strings_of_renderDecl literals.errorMethod rfl (fillPieces_methodHead ?_ rfl rfl)
      hself hn hs hw ?_ ?_ h).trans ?_
    · simp [methodLead, Value.render, ← String.toList_inj]
    · simp only [List.forall_mem_cons]
      exact ⟨hb, hmeasure, isPhrase_resultNames hs names, hphrase, List.forall_mem_nil _⟩
    · simp only [List.forall_mem_cons]
      exact ⟨fun _ ↦ hbackend, fun h ↦ absurd rfl h, fun _ ↦ isUnquoted_commaSeparated hresults,
        fun _ ↦ hcall, List.forall_mem_nil _⟩
    · simp [methodKeys, he, Mark.ownText, quoted, Value.render]
  next he =>
    refine (strings_of_renderDecl literals.method rfl (fillPieces_methodHead ?_ rfl rfl)
      hself hn hs hw ?_ ?_ h).trans ?_
    · simp [methodLead, Value.render, ← String.toList_inj]
    · simp only [List.forall_mem_cons]
      exact ⟨hb, hmeasure, Method.isPhrase_forward hphrase, List.forall_mem_nil _⟩
    · simp only [List.forall_mem_cons]
      exact ⟨fun _ ↦ hbackend, fun h ↦ absurd rfl h, fun _ ↦ isUnquoted_forward hcall,
        List.forall_mem_nil _⟩
    · simp [methodKeys, he, Mark.ownText, quoted, Value.render]

/-- There is no string literal in the constructor. -/
theorem strings_constructor (hd : IsName d.name) (hp : IsName package) {decl : Decl}
    (h : (renderDecl (typeBindings backend package d) constructorTemplate).outcome = .ok decl) :
    decl.strings = [] := by
  have hf := (yields_constructor hd hp).cond_of_answer h
  have hps : ∀ p ∈ [(⟨some (d.fieldName [backend, "time"]), d.wrapped package, false⟩ : Param)],
      p.Plain := List.forall_mem_singleton.2
    (isFixed_of_isName hf (d.legible_wrapped hd hp)).plain
  have hrs : ∀ r ∈ [(.unnamed (.pointer (.named none d.name)) : Param)], r.PlainResult :=
    List.forall_mem_singleton.2 (plainResult_pointer hd)
  have hw := (writable_iff_of_plain hps hrs).2
    (List.forall_mem_singleton.2 fun n hn ↦ Option.some.inj hn ▸ hf)
  have hhead := @fillPieces_constructorHead (typeBindings backend package d).text
    [.placeholder "Type"] [] [.placeholder "Type"] d.name (d.fieldName [backend, "time"]) d.name
    (d.wrapped package) [] (by simp [typeBindings]; rfl) rfl rfl (by simp)
    (by simp [typeBindings]; rfl)
  refine strings_of_renderDecl literals.constructor rfl hhead (by simp) (isName_new hd)
    (drafted_of_plain hps hrs) hw ?_ ?_ h
  · exact List.forall_mem_cons.2 ⟨hd, List.forall_mem_singleton.2 hf⟩
  · exact List.forall_mem_cons.2 ⟨fun _ ↦ isUnquoted_of_isNameText hd.isNameText,
      List.forall_mem_singleton.2 fun _ ↦ isUnquoted_of_isNameText hf.isNameText⟩

theorem flatMap_strings {interface : String} {ms : List Method} {decls : List Decl}
    (h : List.Forall₂ (fun m decl ↦ decl.strings = (methodKeys interface m).map quoted) ms decls) :
    decls.flatMap Decl.strings = (ms.flatMap (methodKeys interface)).map quoted := by
  induction h with
  | nil => rfl
  | cons hdecl _ ih => rw [List.flatMap_cons, List.flatMap_cons, List.map_append, hdecl, ih]

/-- **The string literals of the wrapper are the keys**, each of them once and in order. -/
theorem strings_generate (hb : IsName backend) (hd : d.WellFormed) (hp : IsName package)
    {decls : List Decl} (h : ((metrics backend package).generate d).outcome = .ok decls) :
    decls.flatMap Decl.strings = (keys d).map quoted := by
  have hconstructor := (@yields_constructor package d backend hd.name hp).of_forall
    fun _ ↦ strings_constructor hd.name hp
  have hmethods (hf : IsName (d.fieldName [backend, "time"])) :=
    Yields.mapM (fun m hm ↦ (yields_method hb hd.name (hd.methods m hm) hp
      (isName_receiverName hd.name hf) hf).of_forall fun _ ↦
        strings_method hb hd.name (hd.methods m hm) hp (isName_receiverName hd.name hf) hf)
  have hgenerate : ∃ cond, Yields ((metrics backend package).generate d) cond fun decls ↦
      decls.flatMap Decl.strings = (keys d).map quoted := by
    refine ⟨_, (yields_struct hd.name hp).bind fun struct hf hstruct ↦ hconstructor.bind
      fun constructor _ hnone ↦ (hmethods hf).bind fun methods _ hall ↦ yields_pure ?_⟩
    obtain ⟨⟨fields, rfl⟩, -⟩ := hstruct
    rw [List.flatMap_cons, List.flatMap_cons, hnone]
    exact flatMap_strings hall
  obtain ⟨_, hyields⟩ := hgenerate
  exact hyields.of_answer h

/-! ### Keys in the wrapper -/

/-- **The keys of a wrapper are distinct exactly if their words are.** They are the string literals
of the generated declarations. -/
theorem metric_keys_distinct_iff (d : Descriptor) :
    ((keys d).Nodup ↔ WordsApart d.methods) ∧
    ∀ backend package decls, IsName backend → IsName package → d.WellFormed →
      ((metrics backend package).generate d).outcome = .ok decls →
        decls.flatMap Decl.strings = (keys d).map quoted :=
  ⟨nodup_keys_iff d, fun _ _ _ hb hp hd h ↦ strings_generate hb hd hp h⟩

/-- A method that takes nothing. It returns an error or nothing. -/
def plainMethod (name : String) (fails : Bool) : Method :=
  ⟨name, [], if fails then [.unnamed (.primitive .error)] else []⟩

/-- An interface with such methods. -/
def plainInterface (methods : List (String × Bool)) : Descriptor :=
  ⟨"Repo", .interface, methods.map fun m ↦ plainMethod m.1 m.2⟩

theorem wellFormed_plainInterface {methods : List (String × Bool)}
    (h : ∀ m ∈ methods, IsName m.1) : (plainInterface methods).WellFormed := by
  refine ⟨(by decide : IsName "Repo"), fun m hm ↦ ?_⟩
  obtain ⟨⟨name, fails⟩, hmem, rfl⟩ := List.mem_map.1 hm
  refine ⟨h _ hmem, Shape.WellFormed.signature ?_⟩
  cases fails with
  | false => exact (by decide : (Shape.function ⟨[], []⟩).WellFormed)
  | true => exact (by decide : (Shape.function ⟨[], [.unnamed (.primitive .error)]⟩).WellFormed)

/-- Metrics can be written for such an interface. -/
theorem exists_generate_plainInterface {methods : List (String × Bool)}
    (h : ∀ m ∈ methods, IsName m.1) :
    ∃ decls, ((metrics "prometheus" "abc").generate (plainInterface methods)).outcome =
      .ok decls := by
  have hfield : IsName ((plainInterface []).fieldName ["prometheus", "time"]) := by
    decide +kernel
  have hwritable : ∀ m ∈ (plainInterface methods).methods, (m.prepare "abc"
      (locals "prometheus" (receiverName "Repo"))).1.signature.Writable := by
    intro m hm
    obtain ⟨⟨name, fails⟩, -, rfl⟩ := List.mem_map.1 hm
    refine ⟨List.forall_mem_nil _, ?_⟩
    cases fails with
    | false => exact (by decide : (Shape.function ⟨[], []⟩).Legible).readable
    | true =>
      exact (by decide : (Shape.function ⟨[], [.unnamed (.primitive .error)]⟩).Legible).readable
  obtain ⟨decls, hdecls, -⟩ := (yields_generate (by decide : IsName "prometheus")
    (wellFormed_plainInterface h) (by decide : IsName "abc")).answer ⟨hfield, hwritable⟩
  exact ⟨decls, hdecls⟩

/-- Different words have different keys, also where one method is called like another one and a
word more. -/
theorem metric_keys_distinct_iff_list :
    ∃ decls, ((metrics "prometheus" "abc").generate
        (plainInterface [("Get", true), ("GetAll", false)])).outcome = .ok decls ∧
      decls.flatMap Decl.strings = ["\"repo_get\"", "\"repo_get_seconds\"", "\"repo_get_error\"",
        "\"repo_get_all\"", "\"repo_get_all_seconds\""] ∧
      WordsApart (plainInterface [("Get", true), ("GetAll", false)]).methods := by
  have hnames : ∀ m ∈ [("Get", true), ("GetAll", false)], IsName m.1 := by decide
  obtain ⟨decls, hdecls⟩ := exists_generate_plainInterface hnames
  obtain ⟨hnodup, hstrings⟩ := metric_keys_distinct_iff (plainInterface _)
  refine ⟨decls, hdecls, ?_, hnodup.1 (by decide +kernel)⟩
  rw [hstrings "prometheus" "abc" decls (by decide) (by decide)
    (wellFormed_plainInterface hnames) hdecls]
  decide +kernel

/-- **Methods with different names can share a key**: the failures of one are the calls of another
one, the durations of one are the calls of another one, or only capitals tell them apart. -/
theorem metric_keys_meet :
    (∀ methods ∈ [[("Get", true), ("GetError", false)], [("Get", false), ("GetSeconds", false)],
        [("GetID", false), ("GetId", false)]],
      ((plainInterface methods).methods.map Method.name).Nodup ∧
        ¬ (keys (plainInterface methods)).Nodup) ∧
    ∃ decls, ((metrics "prometheus" "abc").generate
        (plainInterface [("Get", true), ("GetError", false)])).outcome = .ok decls ∧
      decls.flatMap Decl.strings = ["\"repo_get\"", "\"repo_get_seconds\"", "\"repo_get_error\"",
        "\"repo_get_error\"", "\"repo_get_error_seconds\""] := by
  refine ⟨by decide +kernel, ?_⟩
  have hnames : ∀ m ∈ [("Get", true), ("GetError", false)], IsName m.1 := by decide
  obtain ⟨decls, hdecls⟩ := exists_generate_plainInterface hnames
  refine ⟨decls, hdecls, ?_⟩
  rw [strings_generate (by decide) (wellFormed_plainInterface hnames) (by decide) hdecls]
  decide +kernel

end Metrics

end GoDecorator.Pattern
