import GoDecorator.Proofs.Reading.Agreement
import GoDecorator.Proofs.Reading.Types

/-!
# Reading variables with any type and value

A package variable has a name, perhaps a type, and perhaps a value. **The printed form of a variable
without a value is read as the variable** (`writes_text_var`).

Of a value little is known: its text need not be the text of the value that is read from it. So what
is shown is relative to the text on its own. **An expression that is read from its text is read as
the value of a variable of any name and type** (`parseDecl_var`). Both times the tokens of the
value are of the same kinds, but they stand at different places and the parsers start with different
budgets; the one that reads the expression alone has the smaller budget, since there is no type
(`agrees_fromValue`).
-/

namespace GoDecorator

open Token GoDecorator.Parser

/-! ### Names and types -/

/-- The atoms of the type of a variable. -/
def varShapeAtoms : Option Shape → List Atom
  | none => []
  | some s => .blank ' ' :: s.atoms

/-- The atoms of a variable up to its type. -/
def varLeadAtoms (name : String) (s : Option Shape) : List Atom :=
  .token (.keyword .var) :: .blank ' ' :: .token (.ident name) :: varShapeAtoms s

theorem atomsText_varLeadAtoms (name : String) (s : Option Shape) :
    atomsText (varLeadAtoms name s) =
      ("var " ++ name ++ (s.map fun s ↦ " " ++ s.text).getD "").toList := by
  cases s <;> simp [varLeadAtoms, varShapeAtoms, Kind.text, Keyword.text]

theorem phrase_varLeadAtoms {name : String} (hn : IsName name) {s : Option Shape}
    (hs : ∀ t ∈ s, t.Proper) : Phrase (varLeadAtoms name s) := by
  have hname : Phrase (.token (.ident name) :: varShapeAtoms s) := by
    cases s with
    | none => exact hn.phrase
    | some t => exact (Shape.phrase_atoms (hs t rfl)).cons_blank hn.closed rfl
  exact hname.cons_blank (closed_keyword .var) rfl

namespace Parser

/-- What is read after the name and the type of a variable. -/
def varRest (name : String) (s : Option Shape) : Parser VarSpec := do
  if ← accept .assign then return ⟨name, s, some (← expr)⟩ else return ⟨name, s, none⟩

/-- A token that can follow the name or the type of a variable. -/
def EndsVar (k : Kind) : Prop := k = .assign ∨ k.isSeparator = true

theorem EndsVar.endsType {k : Kind} (h : EndsVar k) : EndsType k := by
  rcases h with rfl | h
  · exact ⟨rfl, by simp⟩
  · exact endsType_of_isSeparator h

/-- The parser for declarations takes the name and the type of a variable. -/
theorem run_topLevel_var {name : String} {s : Option Shape}
    (hs : ∀ t ∈ s, t.Proper ∧ t.Readable) {ts rest : List Token}
    (hts : ts.map Token.kind = kinds (varLeadAtoms name s)) (hrest : EndsVar (first rest).kind) :
    topLevel.run (ts ++ rest) =
      ((fun v ↦ [Decl.var v]) <$> varRest name (s.map Shape.reread)).run rest := by
  obtain ⟨t, ts, rfl, ht, hts⟩ := List.map_eq_cons_iff.1 hts
  obtain ⟨u, ts, rfl, hu, hts⟩ := List.map_eq_cons_iff.1 hts
  cases s with
  | none =>
    obtain rfl := List.map_eq_nil_iff.1 hts
    have huntyped : (first rest).kind = .assign ∨ (first rest).kind.isSeparator = true ∨
        (first rest).kind = .eof := hrest.imp_right .inl
    simp [topLevel, ht, varSpec, run_expect, ident, hu, atSeparator, huntyped, varRest]
  | some s =>
    obtain ⟨hproper, hread⟩ := hs s rfl
    obtain ⟨_, rfl, hshape⟩ := reads_shape hproper hread ts rest hts hrest.endsType
    obtain ⟨k, ks, hk, hstart, -⟩ := exists_kinds_atoms s
    have hfirst : (first (ts ++ rest)).kind = k := first_append (hts.trans hk)
    have htyped : ¬ (k = .assign ∨ k.isSeparator = true ∨ k = .eof) := by
      cases k <;> simp [Kind.startsType, Kind.isSeparator] at hstart ⊢
    simp [topLevel, ht, varSpec, run_expect, ident, hu, atSeparator, hfirst, htyped, hshape,
      varRest]

end Parser

theorem map_reread_of_isSettled {s : Option Shape} (hs : ∀ t ∈ s, t.IsSettled) :
    s.map Shape.reread = s := by
  cases s with
  | none => rfl
  | some t => exact congrArg some (Shape.reread_of_isSettled (hs t rfl))

/-- **The printed form of a variable without a value is read as the variable.** -/
theorem writes_text_var {name : String} (hn : IsName name) {s : Option Shape}
    (hs : ∀ t ∈ s, t.IsSettled) :
    Writes (Decl.var ⟨name, s, none⟩).text (.var ⟨name, s, none⟩) := by
  have hphrase := phrase_varLeadAtoms hn fun t ht ↦ (hs t ht).1.proper
  refine ⟨varLeadAtoms name s, ?_, hphrase.spelledAt (by decide), ⟨_, _, rfl, rfl, by simp⟩,
    fun offset line rest hrest ↦ ?_⟩
  · simp [atomsText_varLeadAtoms, Decl.text, VarSpec.text]
  · have hassign : (first rest).kind ≠ .assign := by
      intro hk
      rw [hk] at hrest
      cases hrest
    rw [run_topLevel_var (fun t ht ↦ ⟨(hs t ht).1.proper, (hs t ht).2.1⟩) (map_kind_place ..)
      (.inr hrest), map_reread_of_isSettled hs]
    simp [varRest, run_accept, hassign]

/-! ### Values -/

/-- The atoms of a variable up to its value. -/
def valueLeadAtoms (name : String) (s : Option Shape) : List Atom :=
  varLeadAtoms name s ++ [.blank ' ', .token .assign, .blank ' ']

theorem spelled_valueLeadAtoms {name : String} (hn : IsName name) {s : Option Shape}
    (hs : ∀ t ∈ s, t.Proper) (next : Option Char) : Spelled (valueLeadAtoms name s) next := by
  refine (spelled_append ..).2 ⟨(phrase_varLeadAtoms hn hs).spelled _ ?_, .inl rfl, ?_, .inl rfl,
    trivial⟩
  · show (some ' ').all _ = true
    decide
  · exact readsBefore_of_endsBefore (by rw [firstChar_blank]; decide)

namespace Parser

/-- What is read from the value of the first variable of a file on. -/
def fromValue (name : String) (s : Option Shape) (budget : Nat) : Parser (List (List Decl)) := do
  let e ← expr
  unless ← atSeparator do unexpected .endOfDeclaration
  return [.var ⟨name, s, some e⟩] :: (← roundsWithin declRound budget)

/-- The rounds of the parser for files, from the value of the first variable on. -/
theorem run_roundsWithin_value {name : String} {s : Option Shape}
    (hs : ∀ t ∈ s, t.Proper ∧ t.Readable) {ns ts rest : List Token}
    (hns : ∀ t ∈ ns, t.kind.isSeparator = true)
    (hts : ts.map Token.kind = kinds (valueLeadAtoms name s)) (budget : Nat) :
    (roundsWithin declRound (budget + 1)).run (ns ++ (ts ++ rest)) =
      (fromValue name (s.map Shape.reread) budget).run rest := by
  have hstart : StartsDecl (first (ts ++ rest)).kind := by
    rw [first_append hts]
    exact ⟨rfl, by simp⟩
  rw [valueLeadAtoms, kinds_append] at hts
  obtain ⟨ts₁, ts₂, rfl, hts₁, hts₂⟩ := List.map_eq_append_iff.1 hts
  obtain ⟨t, rfl, ht⟩ := List.map_eq_singleton_iff.1 hts₂
  have hvar := @run_topLevel_var name s hs ts₁ ([t] ++ rest) hts₁ (.inl ht)
  rw [roundsWithin, StateT.run_bind, run_declRound hns hstart, List.append_assoc, hvar]
  cases hexpr : expr.run rest with
  | error e => simp [varRest, run_accept, ht, fromValue, hexpr]
  | ok r =>
    by_cases hend : (first r.2).kind.isSeparator = true ∨ (first r.2).kind = .eof
    · simp [varRest, run_accept, ht, fromValue, hexpr, atSeparator, hend]
    · simp [varRest, run_accept, ht, fromValue, hexpr, atSeparator, hend]

/-- The declarations of two files whose first variables have the same value. -/
def SameValue (name name' : String) (s s' : Option Shape) (dss dss' : List (List Decl)) : Prop :=
  ∃ e ess ess', dss = [.var ⟨name, s, some e⟩] :: ess ∧ dss' = [.var ⟨name', s', some e⟩] :: ess' ∧
    List.Forall₂ (List.Forall₂ Decl.SameKinds) ess ess'

/-- **The name and the type of a variable do not matter for its value**, nor for what follows. -/
theorem agrees_fromValue {n : Nat} {tight : Prop} (name name' : String) (s s' : Option Shape)
    {budget budget' : Nat} (hb : budget ≤ budget') :
    Agrees n tight (fromValue name s budget) (fromValue name' s' budget')
      (SameValue name name' s s') := by
  have hrest (e : Expr) : Agrees n tight
      (do return [.var ⟨name, s, some e⟩] :: (← roundsWithin declRound budget))
      (do return [.var ⟨name', s', some e⟩] :: (← roundsWithin declRound budget'))
      (SameValue name name' s s') :=
    (agrees_roundsWithin agrees_declRound hb).bind fun ess ess' h ↦
      agrees_pure ⟨e, ess, ess', rfl, rfl, (UpTo.of_forall₂ h).1⟩
  refine agrees_expr.bindEq fun e ↦ agrees_atSeparator.bindEq fun _ ↦
    agrees_ite (fun _ ↦ hrest e) fun _ ↦ ?_
  exact (@agrees_unexpected _ _ _ _ (fun _ _ ↦ True) _).bind fun _ _ _ ↦ hrest e

end Parser

/-- The tokens of a file with a variable that has a value, and what is read from the value on. -/
theorem exists_parseSource_value {name : String} (hn : IsName name) {s : Option Shape}
    (hs : ∀ t ∈ s, t.Proper ∧ t.Readable) {lead text : String}
    (hlead : lead.toList = atomsText (valueLeadAtoms name s)) :
    ∃ offset line ts, scanFrom offset line (text.toList ++ ['\n']) = some ts ∧
      parseSource ("package abc\n\n" ++ (lead ++ text) ++ "\n") =
        .ok (((fromValue name (s.map Shape.reread)
          ((kinds (valueLeadAtoms name s)).length + ts.length + 2)).run ts).map
            fun r ↦ ⟨"abc", r.1.flatten⟩) := by
  let breaks : List Atom := [.token .newline, .token .newline]
  have hsource : ("package abc\n\n" ++ (lead ++ text) ++ "\n").toList =
      atomsText (clauseAtoms ++ (breaks ++ valueLeadAtoms name s)) ++ (text.toList ++ ['\n']) := by
    simp [breaks, clauseAtoms, hlead, Kind.text, Keyword.text]
  have hspelled : Spelled (clauseAtoms ++ (breaks ++ valueLeadAtoms name s))
      (text.toList ++ ['\n']).head? :=
    (spelled_append ..).2 ⟨spelled_clauseAtoms, readsBefore_newline _, readsBefore_newline _,
      spelled_valueLeadAtoms hn (fun t ht ↦ (hs t ht).1) _⟩
  obtain ⟨offset, line, ts, hts, hscan⟩ := exists_scan_of_ends hsource hspelled
  refine ⟨offset, line, ts, hts, ?_⟩
  obtain ⟨offset', line', hfile⟩ := run_file_clauseAtoms (breaks ++ valueLeadAtoms name s) ts
  obtain ⟨line'', hplace⟩ := place_append offset' line' breaks (valueLeadAtoms name s)
  rw [parseSource, hscan]
  show Except.ok ((file.run _).map Prod.fst) = _
  have hlength (offset line : Nat) (as : List Atom) :
      (place offset line as).length = (kinds as).length := by
    rw [← map_kind_place offset line, List.length_map]
  have hbudget : (place offset' line' breaks ++ (place (offset' + (atomsText breaks).length) line''
      (valueLeadAtoms name s) ++ ts)).length =
        (kinds (valueLeadAtoms name s)).length + ts.length + 2 := by
    rw [List.length_append, List.length_append, hlength, hlength]
    simp [breaks]
    omega
  rw [hfile, hplace, run_rounds, List.append_assoc, hbudget,
    run_roundsWithin_value hs (by simp [breaks, place, Kind.isSeparator]) (map_kind_place ..)]
  cases (fromValue name (s.map Shape.reread) _).run ts <;> rfl

/-- What is read as an expression is the value of a variable that is declared for it. -/
theorem exists_parseDecl_of_read {text : String} {e : Expr} (h : Expr.read text = .ok e) :
    ∃ d, parseDecl ("var abc = " ++ text) = .ok (.ok d) ∧ Decl.valueOf text d = .ok e := by
  obtain ⟨r, hdecl, hr⟩ := exists_of_bind_eq_ok h
  obtain ⟨d, rfl, hd⟩ := exists_of_bind_eq_ok (orUnreadable_eq_ok_iff.1 hr)
  exact ⟨d, hdecl, hd⟩

/-- What the parser does from the value on, if the text is read as an expression: it reads the
expression, and no declaration after it. -/
theorem exists_fromValue_of_read {text : String} {e : Expr} (h : Expr.read text = .ok e) :
    ∃ offset line ts ess ts', scanFrom offset line (text.toList ++ ['\n']) = some ts ∧
      (fromValue "abc" none (ts.length + 5)).run ts =
        .ok ([.var ⟨"abc", none, some e⟩] :: ess, ts') ∧ ess.flatten = [] := by
  obtain ⟨d, hdecl, hd⟩ := exists_parseDecl_of_read h
  obtain ⟨package, hfile⟩ := parseDecl_eq_ok_iff.1 hdecl
  obtain ⟨offset, line, ts, hts, hsource⟩ := @exists_parseSource_value "abc" isName_abc none
    (by simp) "var abc = " text (by decide)
  have hbudget : (kinds (valueLeadAtoms "abc" none)).length + ts.length + 2 = ts.length + 5 := by
    show 3 + ts.length + 2 = _
    omega
  rw [hsource, Option.map_none, hbudget] at hfile
  cases hrun : (fromValue "abc" none (ts.length + 5)).run ts with
  | error f =>
    rw [hrun] at hfile
    cases hfile
  | ok r =>
    obtain ⟨dss, ts'⟩ := r
    rw [hrun] at hfile
    have hflatten : dss.flatten = [d] :=
      congrArg SourceFile.decls (Except.ok.inj (Except.ok.inj hfile))
    -- a parser agrees with itself, so the first of the declarations has the value that was read
    obtain ⟨_, _, -, ⟨e', ess, -, rfl, -, -⟩, -⟩ :=
      (agrees_fromValue "abc" "abc" none none (Nat.le_refl _)).exists_run (alike_of_kinds rfl) hrun
    obtain rfl : .var ⟨"abc", none, some e'⟩ = d := List.head_eq_of_cons_eq hflatten
    obtain rfl : e' = e := Except.ok.inj hd
    exact ⟨offset, line, ts, ess, ts', hts, hrun, List.tail_eq_of_cons_eq hflatten⟩

/-- **An expression that is read from its text is read as the value of a variable**, whatever the
name and the type of the variable are. -/
theorem parseDecl_var {name : String} (hn : IsName name) {s : Option Shape}
    (hs : ∀ t ∈ s, t.IsSettled) {text : String} {e : Expr} (h : Expr.read text = .ok e) :
    parseDecl ("var " ++ name ++ (s.map fun s ↦ " " ++ s.text).getD "" ++ " = " ++ text) =
      .ok (.ok (.var ⟨name, s, some e⟩)) := by
  obtain ⟨offset, line, ts, ess, ts', hts, hrun, hnone⟩ := exists_fromValue_of_read h
  obtain ⟨offset', line', us, hus, hsource⟩ := @exists_parseSource_value name hn s
    (fun t ht ↦ ⟨(hs t ht).1.proper, (hs t ht).2.1⟩)
    ("var " ++ name ++ (s.map fun s ↦ " " ++ s.text).getD "" ++ " = ") text (by
      simp [valueLeadAtoms, atomsText_varLeadAtoms, Kind.text])
  have hkinds : ts.map Token.kind = us.map Token.kind := by
    have hmap := map_kind_scanFrom offset line offset' line' (text.toList ++ ['\n'])
    rw [hts, hus] at hmap
    exact Option.some.inj hmap
  -- the lead of this variable has at least the tokens of the other one, so the budget is no smaller
  have hbudget : ts.length + 5 ≤ (kinds (valueLeadAtoms name s)).length + us.length + 2 := by
    have hlength : ts.length = us.length := by simpa using congrArg List.length hkinds
    have hlead : 3 ≤ (kinds (valueLeadAtoms name s)).length := by
      simp [valueLeadAtoms, varLeadAtoms]
    omega
  obtain ⟨_, us', hrun', ⟨e', fss, fss', heq, rfl, hsame⟩, -⟩ :=
    (agrees_fromValue "abc" name none (s.map Shape.reread) hbudget).exists_run
      (alike_of_kinds hkinds) hrun
  obtain ⟨hhead, rfl⟩ := List.cons.inj heq
  obtain rfl : e = e' := by simpa using hhead
  have hnone' : fss'.flatten = [] := by
    have hflatten := List.rel_flatten hsame
    rw [hnone] at hflatten
    exact List.forall₂_nil_left_iff.1 hflatten
  refine parseDecl_eq_ok_iff.2 ⟨"abc", ?_⟩
  rw [hsource, hrun']
  simp [Except.map, hnone', map_reread_of_isSettled hs]

end GoDecorator
