import GoDecorator.Pattern.Observation
import GoDecorator.Proofs.Pattern.Wrapping

/-!
# What the patterns that observe calls generate

The metrics and the tracer write wrappers, and the log writes an implementation without a wrapped
value. **There are declarations exactly if the name of the field for the wrapped value is an
identifier and the signature of each prepared method can be written** (`Metrics.yields_generate`,
`Tracing.yields_generate`); for the log, which has no such field, the signatures alone matter
(`Logging.yields_generate`).

## Metrics

The receiver of a metrics method is the first letter of the type's name in lower case. It is an
identifier wherever the name of the field is (`Metrics.isName_receiverName`), so that it adds no
condition of its own. The name of a measurement stands between quotes. It is made of the characters
of names and of underscores, so no quote and no backslash gets there (`isQuotable_measureName`).

## Logging

A log line has the parameters of the call as arguments, each with its name as a string before it.
The names are identifiers wherever the signature can be written, and the characters of an identifier
can stand between quotes (`Logging.isPhrase_logCall`).

## Tracing

The tracer needs the context, which is the first parameter because the condition on the input was
checked before (`Tracing.takesContext_of_expectTraceable`).
-/

namespace GoDecorator.Pattern

open Template Token

variable {package field : String} {m : Method} {d : Descriptor}

/-! ### Names of measurements -/

theorem isNameText_snakeFrom {cs : List Char} (h : ∀ c ∈ cs, Text.isIdentPart c = true)
    (previous : Option Char) : isNameText (snakeFrom previous cs) = true := by
  induction cs generalizing previous with
  | nil => rfl
  | cons c cs ih =>
    have hc := h c (List.mem_cons_self ..)
    have hrest := ih (fun d hd ↦ h d (List.mem_cons_of_mem _ hd)) (some c)
    rw [snakeFrom]
    split
    · have hlower : isNameText (Text.lowercase c) = true :=
        List.all_eq_true.2 fun d hd ↦ Text.isIdentPart_of_mem_lowercase hc hd
      rw [isNameText_append, isNameText_append, hlower, hrest]
      split <;> decide +kernel
    · rw [isNameText] at hrest ⊢
      rw [List.all_cons, hc, hrest]
      rfl

/-- **A measurement is named by characters that can stand in a string.** -/
theorem isQuotable_measureName {interface method : String} (hi : IsName interface)
    (hm : IsName method) : isQuotable (measureName interface method).toList = true := by
  have hsnake {name : String} (h : IsName name) : isNameText (snakeCase name).toList = true := by
    rw [snakeCase, String.toList_ofList]
    exact isNameText_snakeFrom (Text.isIdentPart_of_isIdentifier (isName_iff.1 h).1) none
  have hunderscore : isNameText "_".toList = true := by decide
  refine isQuotable_of_isNameText ?_
  rw [measureName, String.toList_append, String.toList_append, isNameText_append,
    isNameText_append, hsnake hi, hsnake hm, hunderscore]
  rfl

/-- Names with a point between them can stand in a string. -/
theorem isQuotable_dotted {a b : String} (ha : IsName a) (hb : IsName b) :
    isQuotable (a ++ "." ++ b).toList = true := by
  have hq {name : String} (h : IsName name) := isQuotable_of_isNameText h.isNameText
  rw [String.toList_append, String.toList_append, isQuotable_append, isQuotable_append, hq ha,
    hq hb]
  rfl

/-- The names for the results of a method that can fail. -/
theorem isPhrase_resultNames (hs : m.signature.Drafted) (names : Names) :
    IsPhrase (commaSeparated ((m.resultNames names).1 ++ ["err"])) := by
  refine isPhrase_commaSeparated (List.forall_mem_append.2 ⟨fun n hn ↦ ?_, ?_⟩)
  · exact (Method.isLabel_resultNames hs names n hn).isPhrase
  · exact List.forall_mem_singleton.2 (by decide : IsName "err").isPhrase

/-! ### Metrics -/

namespace Metrics

/-- The pieces of the head of a method in front of its name. -/
def methodLead : List Piece :=
  [.literal "func (", .placeholder "Recv", .literal " *", .placeholder "Type", .literal ") "]

/-- The templates are of the forms in which they are filled in. -/
class Checked : Prop where
  struct :
    IsWholeTemplate structTemplate ["Type", "Field", "Iface"] ['\n']
      (structPieces [.placeholder "Type"] [])
  constructor :
    IsFuncTemplate constructorTemplate ["Type", "Field", "Iface"]
      (constructorHead [.placeholder "Type"] [] [.placeholder "Type"])
      [("Type", .name), ("Field", .name)]
  method :
    IsFuncTemplate methodTemplate
      ["Recv", "Type", "Method", "Signature", "Backend", "Measure", "Forward"]
      (methodHead methodLead) [("Backend", .name), ("Measure", .quotable), ("Forward", .phrase)]
  errorMethod :
    IsFuncTemplate errorMethodTemplate
      ["Recv", "Type", "Method", "Signature", "Backend", "Measure", "Results", "Call"]
      (methodHead methodLead)
      [("Backend", .name), ("Measure", .quotable), ("Results", .phrase), ("Call", .phrase)]

set_option maxRecDepth 8000 in
instance checked : Checked where
  struct := ⟨_, rfl, by decide +kernel⟩
  constructor := ⟨_, rfl, by decide +kernel⟩
  method := ⟨_, rfl, by decide +kernel⟩
  errorMethod := ⟨_, rfl, by decide +kernel⟩

/-- **The receiver is an identifier wherever the name of the field is.** Both are made from the
first letter of the type's name, and only the dotted capital spoils them. -/
theorem isName_receiverName (hd : IsName d.name) {taken : List String}
    (hf : IsName (d.fieldName taken)) : IsName (receiverName d.name) := by
  obtain ⟨c, cs, hname, hc, hcs⟩ := hd.exists_cons
  by_cases hdot : c = Text.dottedCapital
  · have hbroken := isBroken_escapeReserved (isBroken_lowerFirst (hdot ▸ hname) hcs)
    exact absurd hf ((Names.ofReserved taken).isBroken_allocate hbroken).not_isName
  · obtain ⟨l, hl, hstart⟩ := Text.lowercase_of_isIdentStart hc hdot
    rw [receiverName, hname]
    dsimp only
    rw [hl]
    refine isName_iff.2 ⟨?_, Option.eq_none_iff_forall_ne_some.2 fun k hk ↦ ?_⟩
    · rw [String.toList_ofList, Text.isIdentifier, hstart]
      rfl
    · -- No keyword has only one letter.
      have htext : k.text = String.ofList [l] := by simpa using List.find?_some hk
      have hlength : k.text.toList.length ≠ 1 := by cases k <;> decide
      exact hlength (by rw [htext, String.toList_ofList]; rfl)

/-- The names that a generated method uses for itself. -/
def locals (backend receiver : String) : List String := [receiver, backend, "time", "err"]

/-- **A method with metrics** is there exactly if its signature can be written. -/
theorem yields_method {backend receiver : String} (hb : IsName backend) (hd : IsName d.name)
    (hm : m.WellFormed) (hp : IsName package) (hr : IsName receiver) (hf : IsName field) :
    Yields (method backend package d receiver field m)
      (m.prepare package (locals backend receiver)).1.signature.Writable fun decl ↦
      IsMethodOf receiver d.name (m.prepare package (locals backend receiver)).1 decl ∧
        decl.Stable := by
  unfold method locals
  have hs := Method.drafted_prepare hm hp [receiver, backend, "time", "err"]
  have hn : IsName (m.prepare package [receiver, backend, "time", "err"]).1.name := hm.1
  generalize m.prepare package [receiver, backend, "time", "err"] = prepared at hs hn ⊢
  obtain ⟨m, names⟩ := prepared
  dsimp only at hs hn ⊢
  have hcall (hw : m.signature.Writable) :=
    Method.isPhrase_delegate_callArgs hs hw hr hf hn
  split
  · refine GoDecorator.yields_method checked.errorMethod rfl ?_ rfl rfl hr hd hn hs
      fun hw ↦ ?_
    · simp [methodLead, Value.render, ← String.toList_inj]
    · simp only [List.forall_mem_cons]
      exact ⟨hb, isQuotable_measureName hd hn, isPhrase_resultNames hs names, hcall hw,
        List.forall_mem_nil _⟩
  · refine GoDecorator.yields_method checked.method rfl ?_ rfl rfl hr hd hn hs
      fun hw ↦ ?_
    · simp [methodLead, Value.render, ← String.toList_inj]
    · simp only [List.forall_mem_cons]
      exact ⟨hb, isQuotable_measureName hd hn, Method.isPhrase_forward (hcall hw),
        List.forall_mem_nil _⟩

/-- What the struct and the constructor are written from. -/
def typeBindings (backend package : String) (d : Descriptor) : Bindings :=
  [("Type", .text d.name), ("Field", .text (d.fieldName [backend, "time"])),
    ("Iface", .type (d.wrapped package))]

/-- The struct is there exactly if the name of its field is an identifier. -/
theorem yields_struct {backend : String} (hd : IsName d.name) (hp : IsName package) :
    Yields (renderDecl (typeBindings backend package d) structTemplate)
      (IsName (d.fieldName [backend, "time"])) fun decl ↦
        (∃ fields, decl = .type ⟨d.name, .struct fields⟩) ∧ decl.Stable :=
  @yields_struct_field _ _ (typeBindings backend package d) _ _ checked.struct rfl d.name _ _ []
    (by simp [typeBindings]; rfl) rfl rfl (by simp) hd (d.isLabel_fieldName hd [backend, "time"])
    (d.legible_wrapped hd hp) (by simp)

/-- So is the constructor. -/
theorem yields_constructor {backend : String} (hd : IsName d.name) (hp : IsName package) :
    Yields (renderDecl (typeBindings backend package d) constructorTemplate)
      (IsName (d.fieldName [backend, "time"])) Decl.Stable :=
  @GoDecorator.yields_constructor _ _ (typeBindings backend package d) _ _ _ _ checked.constructor
    rfl d.name _ d.name _ [] (by simp [typeBindings]; rfl) rfl rfl (by simp)
    (by simp [typeBindings]; rfl) (isName_new hd) hd (d.isLabel_fieldName hd [backend, "time"])
    (d.legible_wrapped hd hp) (by simp)
    fun hf ↦ List.forall_mem_cons.2 ⟨hd, List.forall_mem_singleton.2 hf⟩

/-- **Metrics** are there exactly if the name of the field is an identifier and the signatures of
the methods can be written. -/
theorem yields_generate {backend : String} (hb : IsName backend) (hd : d.WellFormed)
    (hp : IsName package) :
    Yields ((metrics backend package).generate d)
      (IsName (d.fieldName [backend, "time"]) ∧ ∀ m ∈ d.methods,
        (m.prepare package (locals backend (receiverName d.name))).1.signature.Writable)
      (Wraps (receiverName d.name) d.name
        (d.methods.map fun m ↦ (m.prepare package (locals backend (receiverName d.name))).1)) :=
  yields_wrapper (yields_struct hd.name hp) (yields_constructor hd.name hp) fun hf m hm ↦
    yields_method hb hd.name (hd.methods m hm) hp (isName_receiverName hd.name hf) hf

end Metrics

/-! ### Logging -/

namespace Logging

/-- The templates are of the forms in which they are filled in. -/
class Checked : Prop where
  struct :
    IsWholeTemplate structTemplate ["Type"] []
      [.literal "type ", .placeholder "Type", .literal " struct\x7b\x7d"]
  constructor :
    IsFuncTemplate constructorTemplate ["Type"]
      [.literal "func New", .placeholder "Type", .literal "() *", .placeholder "Type",
        .literal " \x7b"]
      [("Type", .name)]
  method :
    IsFuncTemplate methodTemplate ["Type", "Method", "Signature", "Log", "Return"]
      (methodHead [.literal "func (l *", .placeholder "Type", .literal ") "])
      [("Log", .phrase), ("Return", .phrase)]

set_option maxRecDepth 8000 in
instance checked : Checked where
  struct := ⟨_, rfl, by decide +kernel⟩
  constructor := ⟨_, rfl, by decide +kernel⟩
  method := ⟨_, rfl, by decide +kernel⟩

/-- The names that a generated method uses for itself. -/
def locals : List String := ["l", "slog"]

/-- **The call that logs a method is a phrase.** -/
theorem isPhrase_logCall (hd : IsName d.name) (hn : IsName m.name) (hs : m.signature.Drafted)
    (hw : m.signature.Writable) (hctx : ∀ ctx, m.contextName? = some ctx → IsName ctx) :
    IsPhrase (logCall d m).text := by
  have hmeasure : IsPhrase (stringLiteral (measureName d.name m.name)).text :=
    isPhrase_quoted (isQuotable_measureName hd hn)
  have hpayload : ∀ e ∈ m.payloadParams.flatMap fun p ↦
      [stringLiteral (p.name.getD "_"), .ident (p.name.getD "_")], IsPhrase e.text := by
    intro e he
    obtain ⟨p, hp, he⟩ := List.mem_flatMap.1 he
    obtain ⟨n, hname, hisName⟩ :=
      Method.exists_isName hs hw p (Method.mem_params_of_mem_payloadParams hp)
    rw [hname] at he
    rcases List.mem_pair.1 he with rfl | rfl
    · exact isPhrase_quoted (isQuotable_of_isNameText hisName.isNameText)
    · exact hisName.isPhrase
  have hpath {f : String} (hf : IsName f) : IsPhrase ("slog" ++ "." ++ f) := by
    obtain ⟨c, cs, hname, hc, -⟩ := hf.exists_cons
    exact isPhrase_selected (by decide) hf.isPhrase (by rw [hname]; rfl) hc
  unfold logCall
  split
  · rename_i ctx hname
    exact isPhrase_call (hpath (by decide : IsName "InfoContext"))
      (List.forall_mem_cons.2 ⟨(hctx ctx hname).isPhrase,
        List.forall_mem_cons.2 ⟨hmeasure, hpayload⟩⟩)
  · exact isPhrase_call (hpath (by decide : IsName "Info"))
      (List.forall_mem_cons.2 ⟨hmeasure, hpayload⟩)

/-- **A method of the log** is there exactly if its signature can be written. -/
theorem yields_method (hd : IsName d.name) (hm : m.WellFormed) (hp : IsName package) :
    Yields (method package d m) (m.prepare package locals).1.signature.Writable fun decl ↦
      IsMethodOf "l" d.name (m.prepare package locals).1 decl ∧ decl.Stable := by
  have hs := Method.drafted_prepare hm hp locals
  have hn : IsName (m.prepare package locals).1.name := hm.1
  have hctx (ctx) := @Method.isName_contextName?_prepare m package hm hp locals ctx
  refine GoDecorator.yields_method checked.method rfl ?_ rfl rfl
    (by decide) hd hn hs fun hw ↦ ?_
  · simp [Value.render, ← String.toList_inj]
  · -- what is filled in, without the bindings that it is looked up in
    have hlog := isPhrase_logCall hd hn hs hw hctx
    have hreturn : IsPhrase
        (if (m.prepare package locals).1.results.isEmpty then "" else "return nil") := by
      split
      · exact isPhrase_empty
      · exact isPhrase_word (by decide : IsName "return")
          (by decide : IsName "nil").isPhrase
    simp only [List.forall_mem_cons]
    exact ⟨hlog, hreturn, List.forall_mem_nil _⟩

/-- The struct of the log is always there. -/
theorem yields_struct (hd : IsName d.name) :
    Yields (renderDecl [("Type", .text d.name)] structTemplate) True fun decl ↦
      (∃ fields, decl = .type ⟨d.name, .struct fields⟩) ∧ decl.Stable := by
  have houtcome := @outcome_renderDecl_of_isWholeTemplate _ _ _ _ checked.struct
    [("Type", .text d.name)] rfl (by simp) (d.name ++ " struct\x7b")
    (by simp [Value.render, ← String.toList_inj])
  have hlegible : Shape.emptyStruct.Legible := by decide
  have htext : "type " ++ (d.name ++ " struct\x7b") ++ "\x7d" =
      "type " ++ d.name ++ " " ++ Shape.emptyStruct.text := by
    simp [Shape.text, ← String.toList_inj]
  have hwrites := writes_type hd hlegible.proper hlegible.readable
  rw [htext, read_of_writes hwrites] at houtcome
  exact yields_of_outcome houtcome ⟨⟨[], rfl⟩, hwrites⟩

/-- **The log** is there exactly if the signatures of the methods can be written. -/
theorem yields_generate (hd : d.WellFormed) (hp : IsName package) :
    Yields ((slog package).generate d)
      (∀ m ∈ d.methods, (m.prepare package locals).1.signature.Writable)
      (Wraps "l" d.name (d.methods.map fun m ↦ (m.prepare package locals).1)) := by
  refine (yields_wrapper (yields_struct hd.name) ?_ fun _ m hm ↦
    yields_method hd.name (hd.methods m hm) hp).congr (iff_of_eq (true_and _)).symm
  refine Yields.congr (@yields_plain_func _ _ _ _ _ checked.constructor rfl none
    ("New" ++ d.name) [] [.unnamed (.pointer (.named none d.name))] ?_ (by simp)
    (isName_new hd.name) (by simp) (List.forall_mem_singleton.2 (plainResult_pointer hd.name))
    fun _ ↦ List.forall_mem_singleton.2 hd.name) (by simp)
  simp [Value.render, headText, SignatureOf.text, paramListText, resultListText, resultList,
    standsAlone, commaSeparated, ParamOf.text, ParamOf.unnamed, Shape.text, ← String.toList_inj]

end Logging

/-! ### Tracing -/

namespace Tracing

/-- The templates are of the forms in which they are filled in. -/
class Checked : Prop where
  struct :
    IsWholeTemplate structTemplate ["Type", "Field", "Iface"] ['\n']
      (structPieces [.placeholder "Type"] [.literal "\ttracer trace.Tracer\n"])
  constructor :
    IsFuncTemplate constructorTemplate ["Type", "Field", "Iface", "Scope"]
      (constructorHead [.placeholder "Type"] [] [.placeholder "Type"])
      [("Type", .name), ("Field", .name), ("Scope", .quotable)]
  method :
    IsFuncTemplate methodTemplate
      ["Type", "Method", "Signature", "Ctx", "Span", "Results", "Call"]
      (methodHead [.literal "func (t *", .placeholder "Type", .literal ") "])
      [("Ctx", .name), ("Span", .quotable), ("Results", .phrase), ("Call", .phrase)]

set_option maxRecDepth 8000 in
instance checked : Checked where
  struct := ⟨_, rfl, by decide +kernel⟩
  constructor := ⟨_, rfl, by decide +kernel⟩
  method := ⟨_, rfl, by decide +kernel⟩

/-- A method that can be traced takes a context. -/
theorem takesContext_of_expectTraceable (h : expectTraceable m = .ok ()) :
    m.takesContext = true := by
  unfold expectTraceable at h
  split at h
  · assumption
  · cases h

/-- **A method with a span** is there exactly if its signature can be written. -/
theorem yields_method {typeName : String} (hd : IsName d.name) (ht : IsName typeName)
    (hm : m.WellFormed) (hp : IsName package) (hf : IsName field)
    (hctx : m.takesContext = true) :
    Yields (method package d typeName field m)
      (m.prepare package locals).1.signature.Writable fun decl ↦
      IsMethodOf "t" typeName (m.prepare package locals).1 decl ∧ decl.Stable := by
  unfold method
  have hs := Method.drafted_prepare hm hp locals
  have hn : IsName (m.prepare package locals).1.name := hm.1
  have hname (ctx) := @Method.isName_contextName?_prepare m package hm hp locals ctx
  have htakes := (m.takesContext_prepare package locals).trans hctx
  generalize m.prepare package locals = prepared at hs hn hname htakes ⊢
  obtain ⟨m, names⟩ := prepared
  dsimp only at hs hn hname htakes ⊢
  have hreceiver : IsName "t" := by decide
  obtain ⟨p, ps, hparams, -⟩ := Method.exists_params_of_takesContext htakes
  have hargs : m.callArgs = Method.argumentFor p :: ps.map Method.argumentFor := by
    rw [Method.callArgs, hparams, List.map_cons]
  refine @Yields.after _ _ _ _ _ _ (.ident "spanCtx" :: ps.map Method.argumentFor) ?_ ?_
  · rw [hargs]
    rfl
  · refine GoDecorator.yields_method checked.method rfl ?_ rfl rfl hreceiver ht hn hs
      fun hw ↦ ?_
    · simp [Value.render, ← String.toList_inj]
    · simp only [List.forall_mem_cons]
      refine ⟨?_, isQuotable_dotted hd hn, isPhrase_resultNames hs names,
        Method.isPhrase_delegate hreceiver hf hn ?_, List.forall_mem_nil _⟩
      · cases hctx : m.contextName? with
        | none => exact (by decide : IsName "ctx")
        | some ctx => exact hname ctx hctx
      · have hrest := Method.isPhrase_callArgs hs hw
        rw [hargs, List.forall_mem_cons] at hrest
        exact List.forall_mem_cons.2 ⟨(by decide : IsName "spanCtx").isPhrase, hrest.2⟩

/-- **The tracer** is there exactly if the name of the field is an identifier and the signatures of
the methods can be written. -/
theorem yields_generate (hd : d.WellFormed) (hp : IsName package)
    (hv : (tracing package).validate d = .ok ()) :
    Yields ((tracing package).generate d)
      (IsName (d.fieldName ["tracer", "otel", "trace"]) ∧
        ∀ m ∈ d.methods, (m.prepare package locals).1.signature.Writable)
      (Wraps "t" (d.name ++ "Tracer") (d.methods.map fun m ↦ (m.prepare package locals).1)) := by
  have hlabel := d.isLabel_fieldName hd.name ["tracer", "otel", "trace"]
  have hiface := d.legible_wrapped hd.name hp
  have htype : IsName (d.name ++ "Tracer") :=
    isName_append (isName_iff.1 hd.name).1 (by decide) ⟨'T', by decide, by decide⟩
  have htraceable := d.of_forEachMethod hv
  refine yields_wrapper ?_ ?_ fun hf m hm ↦ yields_method hd.name htype (hd.methods m hm) hp hf
    (takesContext_of_expectTraceable (htraceable m hm))
  · exact @yields_struct_field _ _ _ _ _ checked.struct rfl _ _ _
      [⟨"tracer", .named (some "trace") "Tracer"⟩] (by simp; rfl) rfl rfl
      (by simp; decide) htype hlabel hiface (by decide)
  · refine @yields_constructor _ _ _ _ _ _ _ checked.constructor rfl (d.name ++ "Tracer") _
      (d.name ++ "Tracer") _ [] (by simp; rfl) rfl rfl (by simp) (by simp; rfl) (isName_new htype)
      htype hlabel hiface (by simp) fun hf ↦ ?_
    simp only [List.forall_mem_cons]
    exact ⟨htype, hf, isQuotable_dotted hp hd.name, List.forall_mem_nil _⟩

end Tracing

end GoDecorator.Pattern
