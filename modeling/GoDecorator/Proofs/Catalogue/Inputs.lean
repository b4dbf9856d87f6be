import GoDecorator.Proofs.Catalogue.Faults
import GoDecorator.Proofs.Reading.Agreement
import Mathlib.Data.List.Permutation

/-!
# The two readings of an input

An input is read as declarations and, if it is none, as a type. **No input can be read in both
ways** (`exists_error_of_asDecls`), so it makes no difference which of the two is tried first
(`input_readings_exclusive`).

The tokens of the input are the same in both files, apart from their places. In most cases the first
one decides: a declaration starts with a keyword of its own, and a type does not start with one of
these. The exception is `func`. A method with a receiver starts like a function type, up to the name
of the method, **which is read as the type of the result**. Both parsers are then in front of the
parameters of the method; there the declaration goes on, but nothing can follow a type declaration
except a line break. For this argument both runs have to be followed side by side through the
receiver, where one of them has a larger budget than the other (`agrees_shape_within`).
-/

namespace GoDecorator

open Token

namespace Parser

variable {ts us rest : List Token}

/-! ### A type declaration that goes wrong -/

/-- There is no type where no type can start. -/
theorem run_shape_error (h : (first us).kind.startsType = false) :
    ∃ e, shape.run us = .error e := by
  rw [run_shape, shapeWithin, StateT.run_bind, run_peek, ok_bind]
  generalize first us = t at h ⊢
  obtain ⟨k, span⟩ := t
  cases k with
  | ident name => cases h
  | star => cases h
  | arrow => cases h
  | keyword word => cases word <;> first | exact ⟨_, rfl⟩ | cases h
  | opening bracket => cases bracket <;> first | exact ⟨_, rfl⟩ | cases h
  | _ => exact ⟨_, rfl⟩

/-- After the name of a declared type its definition is read as a type, apart from the forms that
start with one of these tokens. -/
theorem run_topLevel_definition {t x : Token} {name : String}
    (ht : t.kind = .keyword .type) (hx : x.kind = .ident name)
    (hkind : ∀ k ∈ [Kind.opening .square, .assign, .keyword .interface, .keyword .struct],
      (first us).kind ≠ k) :
    topLevel.run (t :: x :: us) =
      shape.run us >>= fun r ↦ .ok ([.type ⟨name, .shape r.1⟩], r.2) := by
  simp only [List.forall_mem_cons] at hkind
  obtain ⟨hsquare, hassign, hinterface, hstruct, -⟩ := hkind
  rw [run_topLevel_type ht hx (fun h ↦ absurd h hsquare) hassign,
    run_typeExpr_shape hinterface hstruct]
  cases shape.run us <;> rfl

/-! ### A method read as a function type -/

/-- The name of a method in front of its parameters is read as a type. -/
theorem run_shapeWithin_method {i : Token} {name : String} (hi : i.kind = .ident name)
    (hrest : (first rest).kind = .opening .paren) (budget : Nat) :
    (shapeWithin (budget + 1)).run (i :: rest) = .ok (.ofIdent name, rest) := by
  simp [shapeWithin, hi, namedShape, run_accept, hrest]

/-- A receiver that is read is a parameter list. -/
theorem exists_paramList_of_receiver {p : Token} (hp : p.kind = .opening .paren) {r : Option Param}
    (h : receiver.run (p :: ts) = .ok (r, rest)) :
    ∃ rs, (paramList shape).run ts = .ok (rs, rest) := by
  obtain ⟨_, _, hhere, htaken⟩ := exists_run_of_bind h
  obtain ⟨-, rfl⟩ := Prod.mk.inj (Except.ok.inj hhere)
  obtain ⟨accepted, _, haccept, hlist⟩ := exists_run_of_bind htaken
  rw [run_accept_cons hp] at haccept
  obtain ⟨rfl, rfl⟩ := Prod.mk.inj (Except.ok.inj haccept)
  obtain ⟨rs, ts', hparams, hone⟩ := exists_run_of_bind hlist
  refine ⟨rs, hparams.trans ?_⟩
  split at hone
  next =>
    obtain ⟨-, rfl⟩ := Prod.mk.inj (Except.ok.inj hone)
    rfl
  next => cases hone

/-- The first tokens of a function that is read: the keyword, then its name or its receiver. After
the receiver come the name and the parameters. -/
theorem exists_cons_of_funcDecl {f : FuncDecl} (h : funcDecl.run ts = .ok (f, rest)) :
    ∃ t ts', ts = t :: ts' ∧ t.kind = .keyword .func ∧
      ((first ts').kind ≠ .opening .paren ∨
        ∃ p ts'' rs i rest', ts' = p :: ts'' ∧ p.kind = .opening .paren ∧
          (paramList shape).run ts'' = .ok (rs, i :: rest') ∧ (∃ name, i.kind = .ident name) ∧
            (first rest').kind = .opening .paren) := by
  obtain ⟨_, ts', hexpect, hafter⟩ := exists_run_of_bind h
  obtain ⟨t, rfl, ht⟩ := exists_cons_of_expect (by decide) hexpect
  refine ⟨t, ts', rfl, ht, ?_⟩
  by_cases hparen : (first ts').kind = .opening .paren
  · refine .inr ?_
    obtain ⟨receiver?, ts₂, hreceiver, hnamed⟩ := exists_run_of_bind hafter
    obtain ⟨name, ts₃, hname, hsigned⟩ := exists_run_of_bind hnamed
    obtain ⟨i, rfl, hi⟩ := exists_cons_of_ident hname
    obtain ⟨sig, ts₄, hsig, -⟩ := exists_run_of_bind hsigned
    obtain ⟨_, ts₅, hopen, -⟩ := exists_run_of_bind hsig
    obtain ⟨o, rfl, ho⟩ := exists_cons_of_expect (by decide) hopen
    cases ts' with
    | nil => cases hparen
    | cons p ts'' =>
      obtain ⟨rs, hparams⟩ := exists_paramList_of_receiver hparen hreceiver
      exact ⟨p, ts'', rs, i, _, rfl, hparen, hparams, ⟨name, hi⟩, ho⟩
  · exact .inl hparen

/-- **A declared function is no function type.** Without a receiver, the parameters of the type are
missing. With one, the name of the method is taken as the type of the result, and the parser stops
in front of the parameters of the method. -/
theorem run_shape_of_funcDecl {f : FuncDecl} (hrun : funcDecl.run ts = .ok (f, rest))
    (h : ts.map Token.kind = us.map Token.kind) :
    (∃ e, shape.run us = .error e) ∨
      ∃ s us', shape.run us = .ok (s, us') ∧ (first us').kind = .opening .paren := by
  obtain ⟨t, ts', rfl, ht, hcases⟩ := exists_cons_of_funcDecl hrun
  obtain ⟨u, us', rfl, hu, hkinds⟩ := List.map_eq_cons_iff.1 h.symm
  have halike : Alike us'.length False ts' us' := alike_of_kinds hkinds.symm
  rw [run_shape, run_shapeWithin_func (hu.trans ht)]
  rcases hcases with hnone | ⟨p, ts'', rs, i, rest', rfl, hp, hparams, ⟨name, hi⟩, hparen⟩
  · obtain ⟨e, he⟩ := run_expect_of_ne (halike.first ▸ hnone)
    refine .inl ⟨e, ?_⟩
    rw [signatureOf, StateT.run_bind, he]
    rfl
  · obtain ⟨o, us'', rfl, ho, hkinds⟩ := List.map_eq_cons_iff.1 hkinds
    -- The receiver is read as the parameters of the type, within a larger budget.
    have hbudget : us''.length < (u :: o :: us'').length := by
      simp only [List.length_cons]
      omega
    obtain ⟨ps, vs, hparams', -, hvs⟩ :=
      (agrees_paramList (agrees_shape_within hbudget)).exists_run (alike_of_kinds hkinds.symm)
        hparams
    obtain ⟨j, vs, rfl, hj, hkinds⟩ := List.map_eq_cons_iff.1 hvs.kinds.symm
    have hparen' : (first vs).kind = .opening .paren := (alike_of_kinds hkinds.symm).first ▸ hparen
    have hresult := run_shapeWithin_method (hj.trans hi) hparen' (o :: us'').length
    refine .inr ⟨.function ⟨ps, [.unnamed (.ofIdent name)]⟩, vs, ?_, hparen'⟩
    have haccept : (accept (.opening .paren)).run (j :: vs) = .ok (false, j :: vs) :=
      run_accept_of_ne (by rw [first_cons, hj, hi]; exact nofun)
    have hstarts : j.kind.startsType = true := by rw [hj, hi]; rfl
    simp only [signatureOf, StateT.run_bind, run_expect_cons (ho.trans hp), ok_bind, hparams',
      haccept, run_kind, first_cons, hstarts, if_true, Bool.false_eq_true, if_false]
    rw [List.length_cons, hresult]
    rfl

/-! ### One round -/

/-- What the parser for declarations can start with. -/
theorem topLevel_cases {ds : List Decl} (h : topLevel.run ts = .ok (ds, rest)) :
    (first ts).kind ∈ [.keyword .imports, .keyword .type, .keyword .var] ∨
      ∃ f, funcDecl.run ts = .ok (f, rest) := by
  rw [topLevel, StateT.run_bind, run_kind, ok_bind] at h
  dsimp only at h
  split at h
  next hkind => exact .inl (by simp [hkind])
  next hkind => exact .inl (by simp [hkind])
  next hkind =>
    obtain ⟨f, ts', hrun, hpure⟩ := exists_run_of_bind h
    obtain ⟨-, rfl⟩ := Prod.mk.inj (Except.ok.inj hpure)
    exact .inr ⟨f, hrun⟩
  next hkind => exact .inl (by simp [hkind])
  next => cases h

theorem mem_of_not_startsDecl {k : Kind} (h : ¬ StartsDecl k) :
    k ∈ [.newline, .semicolon, .eof] := by
  by_contra hk
  refine h ⟨?_, fun heq ↦ hk (by simp [heq])⟩
  cases k <;> first | rfl | exact absurd (by simp) hk

/-- **Where declarations can be read, no type can.** If the round in front of the tokens returns,
then the round in which they are put behind the name of a type fails. -/
theorem exists_declRound_error {ns ns' : List Token} (hns : ∀ t ∈ ns, t.kind.isSeparator = true)
    (hns' : ∀ t ∈ ns', t.kind.isSeparator = true) (h : ts.map Token.kind = us.map Token.kind)
    {t x : Token} (ht : t.kind = .keyword .type) {name : String} (hx : x.kind = .ident name)
    {round : Round (List Decl)} (hrun : declRound.run (ns ++ ts) = .ok (round, rest)) :
    ∃ e, declRound.run (ns' ++ t :: x :: us) = .error e := by
  have hfirst : (first ts).kind = (first us).kind := (alike_of_kinds h).first
  refine run_declRound_error hns' (by rw [first_cons, ht]; exact ⟨rfl, nofun⟩) ?_
  have hother (hk : (first us).kind ∈ [Kind.newline, .semicolon, .eof] ++
      [.keyword .imports, .keyword .type, .keyword .var]) :
      ∃ e, topLevel.run (t :: x :: us) = .error e := by
    have hall : ∀ k ∈ [Kind.newline, .semicolon, .eof] ++
        [.keyword .imports, .keyword .type, .keyword .var], k.startsType = false ∧
          ∀ l ∈ [Kind.opening .square, .assign, .keyword .interface, .keyword .struct], k ≠ l := by
      decide
    obtain ⟨hstarts, hkinds⟩ := hall _ hk
    obtain ⟨e, he⟩ := run_shape_error hstarts
    exact ⟨e, by rw [run_topLevel_definition ht hx hkinds, he]; rfl⟩
  by_cases hstart : StartsDecl (first ts).kind
  · rw [run_declRound hns hstart] at hrun
    cases hdecl : topLevel.run ts with
    | error e =>
      rw [hdecl] at hrun
      cases hrun
    | ok r =>
      rcases topLevel_cases hdecl with hkeyword | ⟨f, hf⟩
      · rw [hfirst] at hkeyword
        exact .inl (hother (List.mem_append_right _ hkeyword))
      · have hfunc : (first us).kind = .keyword .func := by
          obtain ⟨t, ts', rfl, hkind, -⟩ := exists_cons_of_funcDecl hf
          exact hfirst ▸ hkind
        rw [run_topLevel_definition ht hx (by rw [hfunc]; decide)]
        rcases run_shape_of_funcDecl hf h with ⟨e, he⟩ | ⟨s, us', hs, hparen⟩
        · exact .inl ⟨e, by rw [he]; rfl⟩
        · refine .inr ⟨[.type ⟨name, .shape s⟩], us', by rw [hs]; rfl, ?_⟩
          rw [hparen]
          exact ⟨rfl, nofun⟩
  · have hend := mem_of_not_startsDecl hstart
    rw [hfirst] at hend
    exact .inl (hother (List.mem_append_left _ hend))

end Parser

/-! ### The two files -/

open GoDecorator.Parser

/-- What both files start with. -/
def inputClause : List Atom :=
  [.token (.keyword .package), .blank ' ', .token (.ident "whatever"), .token .newline,
    .token .newline]

/-- What stands before the input in the second file only. -/
def inputLead : List Atom :=
  [.token (.keyword .type), .blank ' ', .token (.ident "xxx"), .blank ' ']

theorem spelled_inputClause (next : Option Char) : Spelled inputClause next := by
  have hclause : Spelled [.token (.keyword .package), .blank ' ', .token (.ident "whatever")]
      (some '\n') :=
    ⟨readsBefore_of_endsBefore (by decide), .inl rfl,
      readsBefore_of_endsBefore (by decide), trivial⟩
  exact (spelled_append _ [.token .newline, .token .newline] next).2
    ⟨hclause, readsBefore_newline _, readsBefore_newline _, trivial⟩

theorem spelled_inputLead (next : Option Char) : Spelled inputLead next := by
  have hlead : Spelled [.token (.keyword .type), .blank ' ', .token (.ident "xxx")] (some ' ') :=
    ⟨readsBefore_of_endsBefore (by decide), .inl rfl,
      readsBefore_of_endsBefore (by decide), trivial⟩
  exact (spelled_append _ [.blank ' '] next).2 ⟨hlead, .inl rfl, trivial⟩

/-- **Both files have the tokens of the input**, up to their places. -/
theorem exists_scan_inputs (input : String) :
    ∃ ts us, ts.map Token.kind = us.map Token.kind ∧
      scan (asDecls input) = some (place 0 1 inputClause ++ ts) ∧
      scan (asType input) = some (place 0 1 (inputClause ++ inputLead) ++ us) := by
  have hdecls : (asDecls input).toList = atomsText inputClause ++ (input.toList ++ ['\n']) := by
    show ("package whatever\n\n" ++ input ++ "\n").toList = _
    simp [inputClause, Kind.text, Keyword.text]
  have htype : (asType input).toList =
      atomsText (inputClause ++ inputLead) ++ (input.toList ++ ['\n']) := by
    show ("package whatever\n\ntype xxx " ++ input ++ "\n").toList = _
    simp [inputClause, inputLead, Kind.text, Keyword.text]
  obtain ⟨o, l, ts, hts, hscan⟩ := exists_scan_of_ends hdecls (spelled_inputClause _)
  obtain ⟨o', l', us, hus, hscan'⟩ := exists_scan_of_ends htype
    ((spelled_append ..).2 ⟨spelled_inputClause _, spelled_inputLead _⟩)
  refine ⟨ts, us, ?_, hscan, hscan'⟩
  have hkinds := map_kind_scanFrom o l o' l' (input.toList ++ ['\n'])
  rw [hts, hus] at hkinds
  exact Option.some.inj hkinds

/-- Both files are read without a crash. -/
theorem exists_parseSource_inputs (input : String) :
    ∃ a b, parseSource (asDecls input) = .ok a ∧ parseSource (asType input) = .ok b := by
  obtain ⟨ts, us, -, hdecls, htype⟩ := exists_scan_inputs input
  exact ⟨_, _, by rw [parseSource, hdecls], by rw [parseSource, htype]⟩

/-- After the package clause come line breaks. If the first round from there on fails, the file is
not read. -/
theorem exists_parseSource_error {source : String} {as : List Atom} {rest : List Token}
    (h : scan source = some (place 0 1 (inputClause ++ as) ++ rest)) :
    ∃ ns ts, (∀ t ∈ ns, t.kind.isSeparator = true) ∧ ts.map Token.kind = kinds as ∧
      ∀ e, declRound.run (ns ++ (ts ++ rest)) = .error e → parseSource source = .ok (.error e) := by
  obtain ⟨line, hplace⟩ := place_append 0 1 inputClause as
  refine ⟨(place 0 1 inputClause).drop 2, place (0 + (atomsText inputClause).length) line as,
    by decide, map_kind_place .., fun e he ↦ ?_⟩
  have hfile : file.run (place 0 1 (inputClause ++ as) ++ rest) =
      (rounds declRound).run ((place 0 1 inputClause).drop 2 ++
        (place (0 + (atomsText inputClause).length) line as ++ rest)) >>=
          fun r ↦ .ok (⟨"whatever", r.1.flatten⟩, r.2) := by
    rw [hplace, List.append_assoc]
    exact run_file rfl rfl
  rw [parseSource, h]
  show Except.ok ((file.run _).map Prod.fst) = _
  rw [hfile, run_rounds, run_roundsWithin_error he]
  rfl

/-- **An input that is read as declarations is not read as a type.** -/
theorem exists_error_of_asDecls {input : String} {f : SourceFile}
    (h : parseSource (asDecls input) = .ok (.ok f)) :
    ∃ e, parseSource (asType input) = .ok (.error e) := by
  obtain ⟨ts, us, hkinds, hdecls, htype⟩ := exists_scan_inputs input
  -- The first round of the first file returns.
  obtain ⟨ns, _, hns, hnone, hdecls⟩ := @exists_parseSource_error _ [] _ hdecls
  obtain rfl := List.map_eq_nil_iff.1 hnone
  obtain ⟨round, rest, hround⟩ : ∃ round rest, declRound.run (ns ++ ts) = .ok (round, rest) := by
    cases hround : declRound.run (ns ++ ts) with
    | ok r => exact ⟨r.1, r.2, rfl⟩
    | error e =>
      rw [hdecls e hround] at h
      cases h
  -- So the first round of the second one does not.
  obtain ⟨ns', lead, hns', hlead, htype⟩ := exists_parseSource_error htype
  obtain ⟨t, lead, rfl, ht, hname⟩ := List.map_eq_cons_iff.1 hlead
  obtain ⟨x, lead, rfl, hx, hnil⟩ := List.map_eq_cons_iff.1 hname
  obtain rfl := List.map_eq_nil_iff.1 hnil
  obtain ⟨e, he⟩ := exists_declRound_error hns hns' hkinds ht hx hround
  exact ⟨e, htype e he⟩

/-! ### The order of the readings -/

/-- What comes of two readings that are tried in turn. -/
def inTurn : Except ParseError SourceFile → Except ParseError SourceFile → Outcome SourceFile
  | .ok f, _ => .ok f
  | .error _, .ok f => .ok f
  | .error _, .error e => .error (.error (.unreadableInput e))

/-- Of two readings that exclude each other, either one can be tried first. -/
theorem inTurn_eq_ok_iff {a b : Except ParseError SourceFile} (h : ∀ f g, ¬ (a = .ok f ∧ b = .ok g))
    (f : SourceFile) : inTurn a b = .ok f ↔ a = .ok f ∨ b = .ok f := by
  cases a with
  | error e => cases b <;> simp [inTurn]
  | ok g =>
    cases b with
    | error e => simp [inTurn]
    | ok g' => exact absurd ⟨rfl, rfl⟩ (h g g')

section Readings

variable {input : String} {a b : Except ParseError SourceFile}
  (ha : parseSource (asDecls input) = .ok a) (hb : parseSource (asType input) = .ok b)

include ha hb

theorem outcome_readInput_inTurn : (readInput input).outcome = inTurn a b := by
  rw [outcome_readInput, ha, hb]
  cases a <;> cases b <;> rfl

/-- The readings are tried in the order of the templates. -/
theorem outcome_readInputWith_reverse (failure : Error) (index : Nat) :
    (readInputWith input failure index inputTemplates.reverse).outcome = inTurn b a := by
  show (readInputWith input failure index [_, _]).outcome = _
  rw [outcome_readInputWith_cons, instantiate_asType]
  simp only [hb]
  cases b with
  | ok f => rfl
  | error e =>
    dsimp only
    rw [outcome_readInputWith_cons, instantiate_asDecls]
    simp only [ha]
    cases a <;> rfl

end Readings

theorem perm_inputTemplates {templates : List String} (h : templates.Perm inputTemplates) :
    templates = inputTemplates ∨ templates = inputTemplates.reverse := by
  have hmem := List.mem_permutations.2 h
  simpa [inputTemplates, List.permutations] using hmem

/-- **The two readings of an input exclude each other.** An input is read exactly if one of them
succeeds, as the file that this one gives, and otherwise the error is that of the second reading. It
is never laid to a template. **In whichever order the templates are tried, the same inputs are read,
as the same files.** -/
theorem input_readings_exclusive (input : String) :
    ∃ a b, parseSource ("package whatever\n\n" ++ input ++ "\n") = .ok a ∧
      parseSource ("package whatever\n\ntype xxx " ++ input ++ "\n") = .ok b ∧
      (∀ f g, ¬ (a = .ok f ∧ b = .ok g)) ∧
      (∀ f, (readInput input).outcome = .ok f ↔ a = .ok f ∨ b = .ok f) ∧
      ((∀ f, a ≠ .ok f ∧ b ≠ .ok f) →
        ∃ e, b = .error e ∧ (readInput input).outcome = .error (.error (.unreadableInput e))) ∧
      (∀ failure, (readInput input).outcome = .error failure → failure.tier? ≠ some .template) ∧
      ∀ templates, templates.Perm inputTemplates → ∀ f,
        (readInputWith input (.io "no templates") 0 templates).outcome = .ok f ↔
          (readInput input).outcome = .ok f := by
  obtain ⟨a, b, ha, hb⟩ := exists_parseSource_inputs input
  have hexclusive : ∀ f g, ¬ (a = .ok f ∧ b = .ok g) := by
    rintro f g ⟨rfl, rfl⟩
    obtain ⟨e, he⟩ := exists_error_of_asDecls ha
    rw [hb] at he
    cases he
  have hread := outcome_readInput_inTurn ha hb
  refine ⟨a, b, ha, hb, hexclusive, ?_, ?_, fun failure ↦ tier?_readInput, ?_⟩
  · intro f
    rw [hread]
    exact inTurn_eq_ok_iff hexclusive f
  · intro hnone
    rw [hread]
    cases a with
    | ok f => exact absurd rfl (hnone f).1
    | error e =>
      cases b with
      | ok f => exact absurd rfl (hnone f).2
      | error e' => exact ⟨e', rfl, rfl⟩
  · intro templates hperm f
    rcases perm_inputTemplates hperm with rfl | rfl
    · exact Iff.rfl
    · rw [outcome_readInputWith_reverse ha hb, hread, inTurn_eq_ok_iff hexclusive,
        inTurn_eq_ok_iff fun g g' hboth ↦ hexclusive g' g hboth.symm, or_comm]

end GoDecorator
