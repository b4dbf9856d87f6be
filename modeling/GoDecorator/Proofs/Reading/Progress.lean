import GoDecorator.Proofs.Decl.Progress
import GoDecorator.Proofs.Expr.Reading
import GoDecorator.Proofs.Reading.Agreement

/-!
# The parser always gets on

The source is complete, and the parser stands at some position of it. `GetsOn` says where it comes
to: a later position that is not past the end of the source, or an error, but never the one that a
budget is used up. **Each parser for a part of a source takes a token, and so does each round of a
repetition that is followed by another one** (`parser_progress`). So no repetition goes on for ever,
whatever the tokens are.

Positions are indices into the source here, so that the statement needs no notion of its own for
what is left. It follows from `Proceeds`, which keeps what is left of the source together with a
bound for its length.

## Budgets

Budgets are for nesting. What is read does not depend on them as long as they are not smaller than
the number of tokens that are left (`run_shapeWithin_iff`). This takes two facts: with a larger
budget the parser does the same as far as it gets (`Agrees`), and with either of the two it gets to
its end.

A type inside an expression has a budget of its own. `exprSharing` reads expressions with one budget
for both, which counts the nesting of types and expressions together, and one more than the number
of tokens is enough for it (`run_exprSharing_iff`). The one more is for a composite literal, where a
type starts at the same token as the expression.

## The parts of a source

`PartsProgress`, `RoundsTurn` and `BudgetsSuffice` list what is claimed of each parser. Where the
parser has a loop of its own, `RoundsTurn` also says which repetition it is.
-/

namespace GoDecorator.Parser

open Token (Kind)

variable {α : Type} {source ts : List Token} {n : Nat}

/-! ### Positions -/

/-- What is left at a position is complete. -/
theorem IsComplete.drop (h : IsComplete source) {i : Nat} (hi : i < source.length) :
    IsComplete (source.drop i) := by
  induction h generalizing i with
  | last ht =>
    obtain rfl : i = 0 := Nat.lt_one_iff.1 hi
    exact .last ht
  | @cons t ts ht hts ih =>
    cases i with
    | zero => exact .cons ht hts
    | succ i => exact ih (Nat.lt_of_succ_lt_succ hi)

/-- **The parser gets on** wherever at most `n` tokens of a source are left. It never fails because
a budget is used up, and where it returns it has taken as many tokens as `least` says of the answer
and stands before the end of the source. -/
def GetsOn (n : Nat) (least : α → Nat) (p : Parser α) : Prop :=
  ∀ source i, IsComplete source → i < source.length → source.length ≤ i + n →
    (∀ e, p.run (source.drop i) = .error e → e.isOverBudget = false) ∧
    ∀ a rest, p.run (source.drop i) = .ok (a, rest) →
      ∃ j, rest = source.drop j ∧ i + least a ≤ j ∧ j < source.length

/-- The parser takes a token. -/
def Progresses (n : Nat) (p : Parser α) : Prop := GetsOn n (fun _ ↦ 1) p

/-- The round takes a token, unless no other one follows it. -/
def Turns (n : Nat) (round : Parser (Round α)) : Prop := GetsOn n (Round.takes 0) round

/-- What a parser leaves of a source is what is left at some position. -/
theorem getsOn_of_proceeds {least : α → Nat} {p : Parser α}
    (h : ∀ source m ts, m ≤ n → Ahead source m ts →
      Proceeds source p ts fun a rest ↦ Ahead source (m - least a) rest) : GetsOn n least p := by
  intro source i hsource hi hn
  have hahead : Ahead source (source.length - i) (source.drop i) :=
    ⟨List.drop_suffix i source, hsource.drop hi, by rw [List.length_drop]⟩
  have hproceeds := h source _ _ (by omega) hahead
  refine ⟨fun e he ↦ (hproceeds.fails e he).isOverBudget_eq, fun a rest hrun ↦ ?_⟩
  obtain ⟨hsuffix, hcomplete, hlength⟩ := hproceeds.returns a rest hrun
  have hpos : 0 < rest.length := List.length_pos_iff.2 hcomplete.ne_nil
  exact ⟨source.length - rest.length, List.suffix_iff_eq_drop.1 hsuffix, by omega, by omega⟩

theorem progresses_of_proceeds {p : Parser α} (h : ∀ {source : List Token} {m : Nat}
      {ts : List Token}, Ahead source m ts → Proceeds source p ts fun _ ↦ Ahead source (m - 1))
    (n : Nat) : Progresses n p :=
  getsOn_of_proceeds fun _ _ _ _ hts ↦ h hts

theorem progresses_of_advances {p : Parser α} (h : ∀ source, Advances source n p) :
    Progresses n p :=
  getsOn_of_proceeds fun source m ts hmn hts ↦ h source m ts hmn hts

/-- Of a round after which none follows it does not matter whether it takes a token. -/
theorem turns_of_proceeds {round : Parser (Round α)} (least : Nat)
    (h : ∀ source m ts, m ≤ n → Ahead source m ts →
      Proceeds source round ts fun r rest ↦ Ahead source (m - r.takes least) rest) :
    Turns n round := by
  refine getsOn_of_proceeds fun source m ts hmn hts ↦ (h source m ts hmn hts).mono fun r rest hr ↦
    hr.mono ?_
  cases r with
  | stop => exact Nat.sub_le_sub_left (Nat.zero_le least) m
  | last => exact le_rfl
  | more => exact le_rfl

/-! ### Expressions whose types share their budget -/

/-- An expression without operators in front and calls behind, with the parser for the types of
composite literals that start with a bracket or a keyword. -/
def primaryWith (type : Parser Shape) (inner : Parser Expr) : Parser Expr := do
  match ← kind with
  | .opening .square | .keyword .map | .keyword .struct => compositeOf (← type)
  | _ => primary inner

/-- Operands are read with the parser for types that the budget of types gives. -/
theorem primary_eq (inner : Parser Expr) : primary inner = primaryWith shape inner := by
  refine StateT.ext fun ts ↦ ?_
  have hrun : (primaryWith shape inner).run ts = (match (first ts).kind with
      | .opening .square | .keyword .map | .keyword .struct => shape >>= compositeOf
      | _ => primary inner).run ts := rfl
  rw [hrun]
  split
  next hk => exact run_primary_shape (by simp [hk])
  next hk => exact run_primary_shape (by simp [hk])
  next hk => exact run_primary_shape (by simp [hk])
  next => rfl

/-- An expression, where the nesting of expressions and the nesting of types in them together are
within the budget. -/
def exprSharing : Nat → Parser Expr
  | 0 => overBudget
  | budget + 1 => do
    let inner := exprSharing budget
    match UnaryOp.ofKind? (← kind) with
    | some op =>
      skip
      return .unary op (← inner)
    | none =>
      let e ← primaryWith (shapeWithin budget) inner
      return (← argumentLists inner).foldl .call e

section Agrees

variable {tight : Prop}

theorem agrees_compositeOf (s : Shape) : Agrees n tight (compositeOf s) (compositeOf s) Eq :=
  (agrees_expect _).bind fun _ _ _ ↦ (agrees_expect _).bind fun _ _ _ ↦ agrees_pure rfl

/-- Operands agree if the parsers for types and for expressions do. -/
theorem agrees_primaryWith {type type' : Parser Shape} {inner inner' : Parser Expr}
    (htype : Agrees n tight type type' Eq) (hinner : Agrees n tight inner inner' Eq) :
    Agrees n tight (primaryWith type inner) (primaryWith type' inner') Eq := by
  refine agrees_kind.bindEq fun k ↦ ?_
  split
  · exact htype.bindEq agrees_compositeOf
  · exact htype.bindEq agrees_compositeOf
  · exact htype.bindEq agrees_compositeOf
  · exact agrees_primary hinner

/-- Expressions are read in the same way within a larger budget for both. -/
theorem agrees_exprSharing {budget budget' : Nat} (hb : budget ≤ budget') :
    Agrees n tight (exprSharing budget) (exprSharing budget') Eq := by
  induction budget generalizing budget' with
  | zero => exact agrees_overBudget _
  | succ budget ih =>
    obtain ⟨budget', rfl⟩ := Nat.exists_eq_add_one.2 (Nat.lt_of_lt_of_le (Nat.succ_pos _) hb)
    have hinner := ih (Nat.le_of_succ_le_succ hb)
    have htype := @agrees_shapeWithin n tight _ _ (Nat.le_of_succ_le_succ hb)
    refine agrees_kind.bindEq fun k ↦ ?_
    cases UnaryOp.ofKind? k with
    | some op => exact agrees_skip.bind fun _ _ _ ↦ hinner.bindEq fun _ ↦ agrees_pure rfl
    | none =>
      exact (agrees_primaryWith htype hinner).bindEq fun _ ↦
        (agrees_argumentLists hinner).bindEq fun _ ↦ agrees_pure rfl

/-- **A budget for both is as good as one for each**, if it has room for both. -/
theorem agrees_exprWithin_sharing {budget budget' : Nat} (hb : budget + n < budget') :
    Agrees n tight (exprWithin budget) (exprSharing budget') Eq := by
  induction budget generalizing budget' with
  | zero => exact agrees_overBudget _
  | succ budget ih =>
    obtain ⟨budget', rfl⟩ := Nat.exists_eq_add_one.2 (Nat.lt_of_le_of_lt (Nat.zero_le _) hb)
    have hinner := @ih budget' (by omega)
    have htype := @agrees_shape_within n tight budget' (by omega)
    refine agrees_kind.bindEq fun k ↦ ?_
    cases UnaryOp.ofKind? k with
    | some op => exact agrees_skip.bind fun _ _ _ ↦ hinner.bindEq fun _ ↦ agrees_pure rfl
    | none =>
      have hprimary := agrees_primaryWith htype hinner
      rw [← primary_eq] at hprimary
      exact hprimary.bindEq fun _ ↦ (agrees_argumentLists hinner).bindEq fun _ ↦ agrees_pure rfl

theorem agrees_expr_sharing {budget : Nat} (hb : n + 1 + n < budget) :
    Agrees n tight expr (exprSharing budget) Eq := by
  intro ts us hts
  have hlength : ts.length + 1 + n < budget := by
    have hn := hts.length
    omega
  rw [expr, StateT.run_bind]
  exact agrees_exprWithin_sharing hlength ts us hts

end Agrees

/-- Only the types may have all of the tokens as their budget, since nothing is taken before
them. -/
theorem advances_primaryWith {type : Parser Shape} {inner : Parser Expr}
    (htype : Advances source n type) (hinner : Advances source (n - 1) inner) :
    Advances source n (primaryWith type inner) := by
  intro m ts hmn hts
  have hcomposite : Proceeds source (do compositeOf (← type)) ts fun _ ↦ Ahead source (m - 1) := by
    refine (htype m ts hmn hts).bind fun s us hus ↦
      (proceeds_expect hus (by decide)).bind fun _ vs hvs ↦ ?_
    exact (proceeds_expect hvs (by decide)).bind fun _ rest hrest ↦
      proceeds_pure (hrest.mono (by omega))
  refine .kind ?_
  split
  · exact hcomposite
  · exact hcomposite
  · exact hcomposite
  · exact advances_primary hinner m ts hmn hts

/-- **A budget for both of one more than the number of tokens is enough.** -/
theorem advances_exprSharing (budget : Nat) :
    Advances source budget (exprSharing (budget + 1)) := by
  induction budget with
  | zero =>
    intro m ts hm hts
    exact absurd hts.pos (by omega)
  | succ budget ih =>
    intro m ts hm hts
    refine .kind ?_
    split
    next op hop =>
      refine (proceeds_skip hts (ne_eof_of_ofKind? hop)).bind fun _ us hus ↦ ?_
      exact (ih _ us (by omega) hus).bind fun e rest hrest ↦ proceeds_pure (hrest.mono (by omega))
    next =>
      have hprimary := advances_primaryWith (advances_shapeWithin (budget + 1)) ih
      refine (hprimary m ts hm hts).bind fun e us hus ↦ ?_
      exact (proceeds_argumentLists ih (by omega) hus).bind fun _ rest hrest ↦ proceeds_pure hrest

/-! ### Budgets that suffice -/

/-- Parsers that agree return the same where neither runs out of its budget. -/
theorem run_iff_of_agrees {p q : Parser α} (h : Agrees n False p q Eq) (hts : ts.length ≤ n)
    (hp : Proceeds source p ts fun _ rest ↦ rest <:+ source)
    (hq : Proceeds source q ts fun _ rest ↦ rest <:+ source) (r : α × List Token) :
    p.run ts = .ok r ↔ q.run ts = .ok r := by
  have hmatching := h ts ts ⟨rfl, hts, fun _ ↦ rfl⟩
  generalize hx : p.run ts = x at hmatching
  generalize hy : q.run ts = y at hmatching
  cases hmatching with
  | @returned a b us vs answers rest =>
    have hsuffix : us <:+ vs := List.suffix_of_suffix_length_le (hp.returns a us hx)
      (hq.returns b vs hy) rest.length_eq.le
    rw [answers, hsuffix.eq_of_length rest.length_eq]
  | failed errors => simp
  | overBudget span => cases (hp.fails _ hx).isOverBudget_eq

/-- What is left after a parser that advances is left of the source. -/
theorem Advances.suffix {p : Parser α} (h : Advances source n p) (hts : Ahead source n ts) :
    Proceeds source p ts fun _ rest ↦ rest <:+ source :=
  (h n ts le_rfl hts).mono fun _ _ hrest ↦ hrest.suffix

/-- **A type is read in the same way with every budget of at least the number of tokens.** -/
theorem run_shapeWithin_iff (hts : IsComplete ts) (hn : ts.length ≤ n) (r : Shape × List Token) :
    (shapeWithin n).run ts = .ok r ↔ shape.run ts = .ok r := by
  have hahead : Ahead ts n ts := ⟨List.suffix_rfl, hts, hn⟩
  have hlarge := (advances_shapeWithin (n + 1)).suffix (hahead.mono n.le_succ)
  have hwithin := run_iff_of_agrees (agrees_shapeWithin n.le_succ) hn
    ((advances_shapeWithin n).suffix hahead) hlarge r
  have hshape := run_iff_of_agrees (agrees_shape_within n.lt_succ_self) hn
    (advances_shape.suffix hahead) hlarge r
  exact hwithin.trans hshape.symm

/-- **So is an expression**, where one more is enough for the nesting of types and expressions
together. -/
theorem run_exprSharing_iff (hts : IsComplete ts) (hn : ts.length ≤ n) (r : Expr × List Token) :
    (exprSharing (n + 1)).run ts = .ok r ↔ expr.run ts = .ok r := by
  have hahead : Ahead ts n ts := ⟨List.suffix_rfl, hts, hn⟩
  have hlarge := (advances_exprSharing (n + 1 + n)).suffix (hahead.mono (by omega))
  have hsharing := run_iff_of_agrees (agrees_exprSharing (by omega)) hn
    ((advances_exprSharing n).suffix hahead) hlarge r
  have hadvances : Advances ts n expr := fun _ _ _ hus ↦ proceeds_expr hus
  have hexpr := run_iff_of_agrees (agrees_expr_sharing (by omega)) hn
    (hadvances.suffix hahead) hlarge r
  exact hsharing.trans hexpr.symm

/-! ### The parts of a source -/

/-- The parsers for the parts of a source take a token, and leaving out separators gets on. -/
structure PartsProgress (n : Nat) : Prop where
  separators : GetsOn n (fun _ ↦ 0) skipSeparators
  newlines : GetsOn n (fun _ ↦ 0) skipNewlines
  files : Progresses n file
  declarations : Progresses n topLevel
  imports : Progresses n importDecl
  typeSpecs : Progresses n typeSpec
  interfaceBodies : Progresses n interfaceBody
  structBodies : Progresses n structBody
  blocks : Progresses n block
  types : Progresses n shape
  signatures : Progresses n signature
  parameterLists : Progresses n (paramList shape)
  expressions : Progresses n expr

/-- The repetitions of the parser, and what a round of each comes to. -/
structure RoundsTurn (n : Nat) : Prop where
  declarations : file = (do
      skipSeparators
      expect (.keyword .package)
      let package ← ident
      let decls ← rounds declRound
      return ⟨package, decls.flatten⟩) ∧ Turns n declRound
  typeSpecs : typeGroup = rounds specRound ∧ Turns n specRound
  members : interfaceBody = interfaceOf <$> rounds memberRound ∧ Turns n memberRound
  fields : structBody = List.flatten <$> rounds fieldRound ∧ Turns n fieldRound
  fieldNames : moreNames = rounds nameRound ∧ Turns n nameRound
  selectors : Parser.selectors = rounds selectorRound ∧ Turns n selectorRound
  parameters (type : Parser Shape) (h : type = shape ∨ type = shapeWithin n) :
    commaList (paramEntry type) = rounds (commaRound (paramEntry type)) ∧
      Turns n (commaRound (paramEntry type))
  calls : argumentLists (exprWithin n) = rounds (callRound (exprWithin n)) ∧
    Turns n (callRound (exprWithin n))
  arguments : commaList (argument (exprWithin n)) = rounds (commaRound (argument (exprWithin n))) ∧
    Turns n (commaRound (argument (exprWithin n)))

/-- Budgets that are enough for the nesting, and what is read within them. -/
structure BudgetsSuffice (n : Nat) : Prop where
  types : Progresses n (shapeWithin n)
  expressions : Progresses n (exprWithin n)
  both : Progresses n (exprSharing (n + 1))
  run_types (ts : List Token) (r : Shape × List Token) : IsComplete ts → ts.length ≤ n →
    ((shapeWithin n).run ts = .ok r ↔ shape.run ts = .ok r)
  run_both (ts : List Token) (r : Expr × List Token) : IsComplete ts → ts.length ≤ n →
    ((exprSharing (n + 1)).run ts = .ok r ↔ expr.run ts = .ok r)

theorem partsProgress (n : Nat) : PartsProgress n where
  separators := getsOn_of_proceeds fun _ _ _ _ hts ↦ proceeds_skipSeparators hts
  newlines := getsOn_of_proceeds fun _ _ _ _ hts ↦ proceeds_skipNewlines hts
  files := progresses_of_proceeds proceeds_file n
  declarations := progresses_of_proceeds proceeds_topLevel n
  imports := progresses_of_proceeds proceeds_importDecl n
  typeSpecs := progresses_of_proceeds proceeds_typeSpec n
  interfaceBodies := progresses_of_proceeds proceeds_interfaceBody n
  structBodies := progresses_of_proceeds proceeds_structBody n
  blocks := progresses_of_proceeds proceeds_block n
  types := progresses_of_proceeds proceeds_shape n
  signatures := progresses_of_proceeds proceeds_signature n
  parameterLists := progresses_of_proceeds proceeds_shapeParams n
  expressions := progresses_of_proceeds proceeds_expr n

theorem roundsTurn (n : Nat) : RoundsTurn n where
  declarations := ⟨file_eq, turns_of_proceeds 0 fun _ _ _ _ h ↦ proceeds_declRound h⟩
  typeSpecs := ⟨typeGroup_eq, turns_of_proceeds 1 fun _ _ _ _ h ↦ proceeds_specRound h⟩
  members := ⟨interfaceBody_eq, turns_of_proceeds 1 fun _ _ _ _ h ↦ proceeds_memberRound h⟩
  fields := ⟨structBody_eq, turns_of_proceeds 1 fun _ _ _ _ h ↦ proceeds_fieldRound h⟩
  fieldNames := ⟨moreNames_eq, turns_of_proceeds 0 fun _ _ _ _ h ↦ proceeds_nameRound h⟩
  selectors := ⟨selectors_eq, turns_of_proceeds 0 fun _ _ _ _ h ↦ proceeds_selectorRound h⟩
  parameters type h := by
    refine ⟨commaList_eq _, turns_of_proceeds 1 fun source m ts hmn hts ↦ ?_⟩
    have htype : Advances source n type := by
      rcases h with rfl | rfl
      · exact advances_shape
      · exact advances_shapeWithin n
    exact (proceeds_commaRound (fun _ hus ↦ proceeds_paramEntry htype hmn hus) hts).mono
      fun _ _ hr ↦ hr.2
  calls := ⟨argumentLists_eq _, turns_of_proceeds 0 fun _ _ _ hmn h ↦
    proceeds_callRound (advances_exprWithin n) hmn h⟩
  arguments := by
    refine ⟨commaList_eq _, turns_of_proceeds 1 fun source m ts hmn hts ↦ ?_⟩
    have hargument := advances_argument (@advances_exprWithin source n)
    exact (@proceeds_commaRound _ _ _ _ _ (fun _ ↦ True) (fun us hus ↦
      (hargument m us hmn hus).mono fun _ _ hrest ↦ ⟨trivial, hrest⟩) hts).mono fun _ _ hr ↦ hr.2

theorem budgetsSuffice (n : Nat) : BudgetsSuffice n where
  types := progresses_of_advances fun _ ↦ advances_shapeWithin n
  expressions := progresses_of_advances fun _ ↦ advances_exprWithin n
  both := progresses_of_advances fun _ ↦ advances_exprSharing n
  run_types _ r hts hn := run_shapeWithin_iff hts hn r
  run_both _ r hts hn := run_exprSharing_iff hts hn r

/-- **The parser gets on**, wherever in a source it stands and whatever the tokens are. Each part of
a source takes a token, each round of a repetition takes one or is the last, and no budget for the
nesting of types and expressions is used up. -/
theorem parser_progress (n : Nat) : PartsProgress n ∧ RoundsTurn n ∧ BudgetsSuffice n :=
  ⟨partsProgress n, roundsTurn n, budgetsSuffice n⟩

end GoDecorator.Parser
