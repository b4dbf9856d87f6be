import GoDecorator.Pattern.Admission
import GoDecorator.Proofs.Decl.Values
import GoDecorator.Proofs.Pattern.Wrapping

/-!
# What the patterns that hold calls back generate

The semaphore and the throttle write wrappers: **there are declarations exactly if the name of the
field for the wrapped value is an identifier and the signature of each prepared method can be
written**, and they are those of a wrapper (`Semaphore.yields_generate`,
`Throttle.yields_generate`).

Both have methods of two kinds, and the condition does not depend on the kind. The semaphore waits
for the context of a method that has one, and returns the error of the context. That error is put
together as text and read as an expression, which cannot fail where the name of the context is an
identifier (`Semaphore.read_contextError`).

The throttle starts a loop in its constructor. The loop is the same for every input, so it is
checked like a template without holes (`Throttle.exists_reset`), and so is the error that one of the
modes returns (`Throttle.exists_sentinelDecls`).
-/

namespace GoDecorator.Pattern

open Template Token

variable {package field : String} {m : Method} {d : Descriptor}

/-! ### A bound on simultaneous calls -/

namespace Semaphore

/-- The templates are of the forms in which they are filled in. -/
class Checked : Prop where
  struct :
    IsWholeTemplate structTemplate ["Field", "Iface"] ['\n']
      (structPieces [.literal "Semaphore"] [.literal "\tslots chan struct\x7b\x7d\n"])
  constructor :
    IsFuncTemplate constructorTemplate ["Field", "Iface"]
      (constructorHead [] [.literal ", allowedParallelExecutions int"] [.literal "Semaphore"])
      [("Field", .name)]
  method :
    IsFuncTemplate methodTemplate ["Method", "Signature", "Forward"]
      (methodHead [.literal "func (s *Semaphore) "]) [("Forward", .phrase)]
  contextMethod :
    IsFuncTemplate contextMethodTemplate
      ["Method", "Signature", "Forward", "Ctx", "Cancelled", "Aborted"]
      (methodHead [.literal "func (s *Semaphore) "])
      [("Forward", .phrase), ("Ctx", .name), ("Cancelled", .phrase), ("Aborted", .phrase)]

set_option maxRecDepth 8000 in
instance checked : Checked where
  struct := ⟨_, rfl, by decide +kernel⟩
  constructor := ⟨_, rfl, by decide +kernel⟩
  method := ⟨_, rfl, by decide +kernel⟩
  contextMethod := ⟨_, rfl, by decide +kernel⟩

/-- The names that a generated method uses for itself. -/
def locals : List String := ["s", "err"]

/-- The error of a context that is done. -/
theorem read_contextError {ctx : String} (h : IsName ctx) :
    Expr.read (ctx ++ ".Err()") = .ok (callOf ctx "Err" none) := by
  rw [← read_call h (by decide : IsName "Err") (by simp)]
  congr 1
  simp [callOf, Expr.text, Expr.argTexts, commaSeparated, ← String.toList_inj]

/-- **A method of the semaphore** is there exactly if its signature can be written. -/
theorem yields_method (hm : m.WellFormed) (hp : IsName package) (hf : IsName field) :
    Yields (method package field m) (m.prepare package locals).1.signature.Writable fun d ↦
      IsMethodOf "s" "Semaphore" (m.prepare package locals).1 d ∧ d.Stable := by
  unfold method locals
  have hs := Method.drafted_prepare hm hp ["s", "err"]
  have hn : IsName (m.prepare package ["s", "err"]).1.name := hm.1
  have hctx (ctx) := @Method.isName_contextName?_prepare m package hm hp ["s", "err"] ctx
  generalize (m.prepare package ["s", "err"]).1 = m at hs hn hctx ⊢
  have hreceiver : IsName "s" := by decide
  have hstruct : IsName "Semaphore" := by decide
  have hforward (hw : m.signature.Writable) :
      IsPhrase (m.forward (m.delegate "s" field m.callArgs)) :=
    Method.isPhrase_forward (Method.isPhrase_delegate_callArgs hs hw hreceiver hf hn)
  cases hname : m.contextName? with
  | none =>
    simp only [hname]
    refine GoDecorator.yields_method checked.method rfl (by simp) rfl rfl hreceiver hstruct
      hn hs fun hw ↦ ?_
    exact List.forall_mem_singleton.2 (hforward hw)
  | some ctx =>
    have hzero {e : Expr} (he : IsPhrase e.text) :
        IsPhrase (Value.exprs (m.zeroResults ++ [e])).render :=
      isPhrase_exprs (List.forall_mem_append.2
        ⟨Method.isPhrase_zeroResults hs.proper_results, List.forall_mem_singleton.2 he⟩)
    simp only [hname]
    refine Yields.after (read_contextError (hctx ctx hname)) ?_
    refine GoDecorator.yields_method checked.contextMethod rfl (by simp) rfl rfl hreceiver
      hstruct hn hs fun hw ↦ ?_
    simp only [List.forall_mem_cons]
    exact ⟨hforward hw, hctx ctx hname, hzero (by decide : IsName "err").isPhrase,
      hzero ⟨_, atomsText_callAtoms .., phrase_callAtoms (hctx ctx hname) (by decide)
        (by simp)⟩, List.forall_mem_nil _⟩

/-- **The semaphore** is there exactly if the name of its field is an identifier and the signatures
of its methods can be written. -/
theorem yields_generate (hd : d.WellFormed) (hp : IsName package) :
    Yields ((semaphore package).generate d)
      (IsName (d.fieldName ["slots", "s", "allowedParallelExecutions"]) ∧
        ∀ m ∈ d.methods, (m.prepare package locals).1.signature.Writable)
      (Wraps "s" "Semaphore" (d.methods.map fun m ↦ (m.prepare package locals).1)) := by
  have hlabel := d.isLabel_fieldName hd.name ["slots", "s", "allowedParallelExecutions"]
  have hiface := d.legible_wrapped hd.name hp
  have hname : IsName "Semaphore" := by decide
  refine yields_wrapper ?_ ?_ fun hf m hm ↦ yields_method (hd.methods m hm) hp hf
  · exact @yields_struct_field _ _ _ _ _ checked.struct rfl _ _ _
      [⟨"slots", .channel .both .emptyStruct⟩] (by simp) rfl rfl (by simp; decide) hname
      hlabel hiface (by decide)
  · exact @yields_constructor _ _ _ _ _ _ _ checked.constructor rfl "" _
      "Semaphore" _ [⟨some "allowedParallelExecutions", .primitive .int, false⟩] (by simp) rfl rfl
      (by simp; decide) (by simp) (by decide) hname hlabel hiface
      (by decide) fun hf ↦ List.forall_mem_singleton.2 hf

end Semaphore

/-! ### A bound on calls in a second -/

namespace Throttle

/-- The templates are of the forms in which they are filled in. -/
class Checked : Prop where
  struct :
    IsWholeTemplate structTemplate ["Field", "Iface"] ['\n']
      (structPieces [.literal "Throttle"]
        [.literal "\tticker *time.Ticker\n\tmu sync.Mutex\n\talreadyCalled bool\n"])
  constructor :
    IsFuncTemplate constructorTemplate ["Field", "Iface"]
      (constructorHead [] [.literal ", passesPerSecond int"] [.literal "Throttle"])
      [("Field", .name)]
  method :
    IsFuncTemplate methodTemplate ["Method", "Signature", "Rejected", "Forward"]
      (methodHead [.literal "func (t *Throttle) "])
      [("Rejected", .phrase), ("Forward", .phrase)]

set_option maxRecDepth 8000 in
instance checked : Checked where
  struct := ⟨_, rfl, by decide +kernel⟩
  constructor := ⟨_, rfl, by decide +kernel⟩
  method := ⟨_, rfl, by decide +kernel⟩

set_option maxRecDepth 8000 in
theorem isFunc_resetText :
    ∃ cs, resetText = String.ofList cs ∧
      isFunc [.literal "func (t *Throttle) resetCounter() \x7b"] [] (charSigns cs) = true :=
  ⟨_, rfl, by decide +kernel⟩

/-- The names that a generated method uses for itself. -/
def locals : List String := ["t"]

/-- The names of the other fields, and of what the constructor uses. -/
def taken : List String := ["ticker", "mu", "alreadyCalled", "t", "passesPerSecond", "time"]

/-- The loop that starts each interval is always there. -/
theorem exists_reset : ∃ d, Decl.read (Text.trim resetText) = .ok d ∧ d.Stable := by
  obtain ⟨cs, htext, hfunc⟩ := isFunc_resetText
  have hself := receiverOk_selfOf (by decide : IsName "t")
    (by decide : IsName "Throttle")
  have hyields := @yields_func_of_signs resetText (fun _ ↦ "") _ _ _ (by simp [htext]) hfunc
    (some (selfOf "t" "Throttle")) "resetCounter" ⟨[], []⟩ (by simp; decide)
    (fun _ h ↦ Option.some.inj h ▸ hself) (by decide)
    (@drafted_of_plain [] [] (by simp) (by simp)) (by simp)
  obtain ⟨d, hd, -, hstable⟩ := hyields.answer
    ((@writable_iff_of_plain [] [] (by simp) (by simp)).2 (by simp))
  exact ⟨d, hd, hstable⟩

/-- The declaration of the error is always there, in the mode that has one. -/
theorem exists_sentinelDecls (mode : Mode) :
    ∃ ds, (sentinelDecls mode).outcome = .ok ds ∧ ∀ d ∈ ds, d.Stable := by
  cases mode with
  | noError => exact ⟨[], rfl, by simp⟩
  | withError =>
    have hwrites := @writes_var "ErrThrottled" "errors" "New" (some "rate limit exceeded")
      (by decide) (by decide) (by decide) (by decide)
    have htext : sentinel = (Decl.var ⟨"ErrThrottled", none,
        some (callOf "errors" "New" (some "rate limit exceeded"))⟩).text := by decide
    have hread : Decl.read sentinel = _ := htext ▸ read_of_writes hwrites
    refine ⟨[_], ?_, List.forall_mem_singleton.2 hwrites⟩
    rw [sentinelDecls, hread]
    rfl

/-- **A method of the throttle** is there exactly if its signature can be written. -/
theorem yields_method (mode : Mode) (hm : m.WellFormed) (hp : IsName package)
    (hf : IsName field) :
    Yields (method mode package field m) (m.prepare package locals).1.signature.Writable fun d ↦
      IsMethodOf "t" "Throttle" (m.prepare package locals).1 d ∧ d.Stable := by
  have hs := Method.drafted_prepare hm hp locals
  have hn : IsName (m.prepare package locals).1.name := hm.1
  have hreceiver : IsName "t" := by decide
  refine GoDecorator.yields_method checked.method rfl (by simp) rfl rfl hreceiver
    (by decide) hn hs fun hw ↦ ?_
  simp only [List.forall_mem_cons]
  refine ⟨isPhrase_exprs ?_, Method.isPhrase_forward
    (Method.isPhrase_delegate_callArgs hs hw hreceiver hf hn), List.forall_mem_nil _⟩
  cases mode with
  | noError =>
    intro e he
    rw [refusal] at he
    split at he
    · simp at he
    · obtain rfl := List.mem_singleton.1 he
      exact (by decide : IsName "nil").isPhrase
  | withError =>
    exact List.forall_mem_append.2 ⟨Method.isPhrase_zeroResults hs.proper_results,
      List.forall_mem_singleton.2 (by decide : IsName "ErrThrottled").isPhrase⟩

/-- **The throttle** is there exactly if the name of its field is an identifier and the signatures
of its methods can be written. -/
theorem yields_generate (mode : Mode) (hd : d.WellFormed) (hp : IsName package) :
    Yields ((throttle mode package).generate d)
      (IsName (d.fieldName taken) ∧
        ∀ m ∈ d.methods, (m.prepare package locals).1.signature.Writable)
      (Wraps "t" "Throttle" (d.methods.map fun m ↦ (m.prepare package locals).1)) := by
  have hlabel := d.isLabel_fieldName hd.name taken
  have hiface := d.legible_wrapped hd.name hp
  have hname : IsName "Throttle" := by decide
  obtain ⟨sentinel, hsentinel, hsentinels⟩ := exists_sentinelDecls mode
  obtain ⟨reset, hreset, hresets⟩ := exists_reset
  refine Yields.after hsentinel
    (yields_struct_constructor "Throttle" ?_ ?_ fun fields k hf hs hk ↦ ?_)
  · exact @yields_struct_field _ _ _ _ _ checked.struct rfl _ _ _
      [⟨"ticker", .pointer (.named (some "time") "Ticker")⟩,
        ⟨"mu", .named (some "sync") "Mutex"⟩, ⟨"alreadyCalled", .primitive .bool⟩] (by simp) rfl
      rfl (by simp; decide) hname hlabel hiface (by decide)
  · exact @yields_constructor _ _ _ _ _ _ _ checked.constructor rfl "" _ "Throttle" _
      [⟨some "passesPerSecond", .primitive .int, false⟩] (by simp) rfl rfl
      (by simp; decide) (by simp) (by decide) hname hlabel hiface
      (by decide) fun hf ↦ List.forall_mem_singleton.2 hf
  · refine Yields.after hreset ?_
    refine (Yields.mapM fun m hm ↦ yields_method mode (hd.methods m hm) hp hf).bind_true
      fun ds _ hds ↦ yields_pure ?_
    have hwraps := @wraps_append "t" "Throttle" _ _ (sentinel ++ [_, k, reset]) _ ?_
      ⟨fields, List.mem_append_right _ (List.mem_cons_self ..)⟩ hds
    · simpa using hwraps
    · simp only [List.forall_mem_append, List.forall_mem_cons]
      exact ⟨hsentinels, hs, hk, hresets, List.forall_mem_nil _⟩

end Throttle

end GoDecorator.Pattern
