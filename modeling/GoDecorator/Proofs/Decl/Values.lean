import GoDecorator.Proofs.Decl.Variables
import GoDecorator.Proofs.Expr.Reading

/-!
# Reading variables with a written value

An expression is read by declaring a variable for it. **A variable is read as itself, with its
value, if the written form of the value is one that is read back** (`writes_value`), and so is the
expression on its own (`Expr.read_text`). A type may stand in front of the value; the equals sign
settles where it ends.

The patterns write one kind of package variable, the error that a held back call returns, and read
one kind of expression on its own. Both are calls of a function of a package or of a variable, with
no argument or with a string (`writes_var`, `read_call`). These have none of the forms that are not
read back (`reprintable_callOf`).
-/

namespace GoDecorator

open Token GoDecorator.Parser

/-! ### Values -/

/-- A separator does not go on with an expression. -/
theorem Parser.endsExpr_of_isSeparator {k : Kind} (h : k.isSeparator = true) : EndsExpr k := by
  cases k with
  | newline => exact ⟨⟨by simp, by simp⟩, by simp⟩
  | semicolon => exact ⟨⟨by simp, by simp⟩, by simp⟩
  | _ => cases h

/-- The tokens of a variable with its value are read as the variable. -/
theorem Parser.run_topLevel_value {name : String} {s : Option Shape} (hs : ∀ t ∈ s, t.IsSettled)
    {e : Expr} (hwf : e.WellFormed) (hplain : e.isSpread = false) (hr : e.Reprintable)
    {ts rest : List Token}
    (hts : ts.map Token.kind = kinds (valueLeadAtoms name s ++ e.atoms))
    (hrest : (first rest).kind.isSeparator = true) :
    topLevel.run (ts ++ rest) = .ok ([.var ⟨name, s, some e⟩], rest) := by
  have hkinds : kinds (valueLeadAtoms name s ++ e.atoms) =
      kinds (varLeadAtoms name s) ++ .assign :: kinds e.atoms := by
    simp [valueLeadAtoms]
  obtain ⟨ts₁, ts₂, rfl, hts₁, hts₂⟩ := List.map_eq_append_iff.1 (hts.trans hkinds)
  obtain ⟨t, ts₂, rfl, ht, hts₂⟩ := List.map_eq_cons_iff.1 hts₂
  obtain ⟨_, rfl, hrun⟩ := reads_expr hwf hplain hr ts₂ rest hts₂ (endsExpr_of_isSeparator hrest)
  have hlead := @run_topLevel_var name s (fun t ht ↦ ⟨(hs t ht).1.proper, (hs t ht).2.1⟩) ts₁
    (t :: (ts₂ ++ rest)) hts₁ (.inl ht)
  rw [List.append_assoc, List.cons_append, hlead, map_reread_of_isSettled hs]
  simp [varRest, run_accept, ht, hrun]

/-- **A variable is read with its value** if the written form of the value is read back. -/
theorem writes_value {name : String} (hn : IsName name) {s : Option Shape}
    (hs : ∀ t ∈ s, t.IsSettled) {e : Expr} (hwf : e.WellFormed) (hplain : e.isSpread = false)
    (hr : e.Reprintable) :
    Writes (Decl.var ⟨name, s, some e⟩).text (.var ⟨name, s, some e⟩) := by
  refine ⟨valueLeadAtoms name s ++ e.atoms, ?_, fun more ↦ (spelledAt_append ..).2 ⟨?_, ?_⟩,
    ⟨_, _, rfl, rfl, by simp⟩, fun offset line rest hrest ↦ ?_⟩
  · simp [valueLeadAtoms, atomsText_varLeadAtoms, Decl.text, VarSpec.text, Kind.text]
  · exact (spelled_valueLeadAtoms hn (fun t ht ↦ (hs t ht).1.proper) _).spelledAt
  · exact Expr.spelledAt_atoms hwf hr (Expr.followedBy_newline hwf hplain hr more)
  · exact run_topLevel_value hs hwf hplain hr (map_kind_place ..) hrest

/-- **A written expression is read as itself.** -/
theorem Expr.read_text {e : Expr} (hwf : e.WellFormed) (hplain : e.isSpread = false)
    (hr : e.Reprintable) : Expr.read e.text = .ok e := by
  have hread := parseDecl_of_writes (writes_value (s := none) isName_abc (by simp) hwf hplain hr)
  have htext : (Decl.var ⟨"abc", none, some e⟩).text = "var abc = " ++ e.text := by
    simp [Decl.text, VarSpec.text, ← String.toList_inj]
  rw [htext] at hread
  rw [Expr.read, hread]
  rfl

/-! ### Calls -/

/-- The call `q.f()`, or `q.f("message")`. -/
def callOf (q f : String) (message : Option String) : Expr :=
  .call (.ident (q ++ "." ++ f)) (message.toList.map fun m ↦ .literal ("\"" ++ m ++ "\""))

/-- The atoms of such a call. -/
def callAtoms (q f : String) (message : Option String) : List Atom :=
  .token (.ident q) :: .token .dot :: .token (.ident f) :: .token (.opening .paren) ::
    (message.toList.map (fun m ↦ .token (.str ("\"" ++ m ++ "\""))) ++ [.token (.closing .paren)])

/-- The atoms spell the call. -/
theorem atomsText_callAtoms (q f : String) (message : Option String) :
    atomsText (callAtoms q f message) = (callOf q f message).text.toList := by
  cases message <;> simp [callAtoms, callOf, Expr.text, Expr.argTexts, commaSeparated, Kind.text]

theorem phrase_callAtoms {q f : String} {message : Option String} (hq : IsName q) (hf : IsName f)
    (hm : ∀ m ∈ message, isQuotable m.toList = true) : Phrase (callAtoms q f message) := by
  have harg : Phrase (message.toList.map fun m ↦ Atom.token (.str ("\"" ++ m ++ "\""))) := by
    cases message with
    | none => exact phrase_nil
    | some m => exact phrase_token (closed_str (hm m rfl)) rfl
  have hcall := Phrase.bracketed .paren harg phrase_nil
  refine @Phrase.append [.token (.ident q), .token .dot, .token (.ident f)] _
    (phrase_qualified hq hf) hcall fun next _ ↦ ?_
  rw [firstChar_token (by decide)]
  decide

/-- A text in quotes is a literal with its closing quote. -/
theorem isLiteral_quoted {m : String} (h : isQuotable m.toList = true) :
    IsLiteral ("\"" ++ m ++ "\"") ∧ isUnclosed ("\"" ++ m ++ "\"") = false := by
  have hreads : (Kind.str ("\"" ++ m ++ "\"")).ReadsAt [' '] := readsBefore_str h (some ' ') _ rfl
  refine ⟨⟨[' '], ?_⟩, ?_⟩
  · have hkind := hreads.literalKind_text rfl
    rw [Kind.text] at hkind
    rwa [hkind]
  · -- a literal without its closing quote is not followed by a blank
    rw [← Bool.not_eq_true]
    intro hopen
    rcases hreads.rest_of_isUnclosed rfl hopen with hend | hend
    · cases hend
    · cases hend

/-- Such a call is well-formed if its names are identifiers. -/
theorem wellFormed_callOf {q f : String} {message : Option String} (hq : IsName q) (hf : IsName f)
    (hm : ∀ m ∈ message, isQuotable m.toList = true) : (callOf q f message).WellFormed := by
  have hpath : q ++ "." ++ f = ".".intercalate [q, f] := rfl
  have hnames : ∀ n ∈ [q, f], IsName n := by simp [hq, hf]
  refine Expr.wellFormed_call rfl rfl (List.forall_mem_singleton.2 ?_) fun a ha ↦ ?_
  · rw [Expr.IsFormed, hpath, Expr.pathNames_intercalate (by simp) hnames]
    exact hnames
  · obtain ⟨m, hmem, rfl⟩ := List.mem_map.1 ha
    exact List.forall_mem_singleton.2 (isLiteral_quoted (hm m (Option.mem_toList.1 hmem))).1

/-- Such a call is read back from its written form. -/
theorem reprintable_callOf {q f : String} {message : Option String}
    (hm : ∀ m ∈ message, isQuotable m.toList = true) : (callOf q f message).Reprintable := by
  cases message with
  | none => refine ⟨⟨?_, ?_, ?_, ?_, ?_⟩, ?_⟩ <;> simp [callOf, Expr.parts, Expr.partsOfArgs]
  | some m =>
    have hclosed := (isLiteral_quoted (hm m rfl)).2
    refine ⟨⟨?_, ?_, ?_, ?_, ?_⟩, ?_⟩ <;> simp [callOf, Expr.parts, Expr.partsOfArgs, hclosed]

/-- **A variable with such a value is read as itself.** -/
theorem writes_var {n q f : String} {message : Option String} (hn : IsName n) (hq : IsName q)
    (hf : IsName f) (hm : ∀ m ∈ message, isQuotable m.toList = true) :
    Writes (Decl.var ⟨n, none, some (callOf q f message)⟩).text
      (.var ⟨n, none, some (callOf q f message)⟩) :=
  writes_value hn (by simp) (wellFormed_callOf hq hf hm) rfl (reprintable_callOf hm)

/-- **Such a call is read as itself.** -/
theorem read_call {q f : String} {message : Option String} (hq : IsName q) (hf : IsName f)
    (hm : ∀ m ∈ message, isQuotable m.toList = true) :
    Expr.read (callOf q f message).text = .ok (callOf q f message) :=
  Expr.read_text (wellFormed_callOf hq hf hm) rfl (reprintable_callOf hm)

end GoDecorator
