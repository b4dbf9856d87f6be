import GoDecorator.Proofs.Parser.Stretches

/-!
# Parsers that agree

A parser looks at the kinds of tokens; their places only go into messages and into the blanks of
function bodies. `Agrees n tight p q R` says of two parsers that **on tokens of the same kinds they
do the same**, as long as there are at most `n` of them: both return, with answers related by `R`
and tokens of the same kinds left, or both fail, with errors that differ in their places only.

## What the parameters are for

* `tight`: what the blanks in function bodies are depends on which tokens touch. If `tight` holds,
  the tokens are known to touch in the same places, and so are those that are left; `R` may make use
  of that. A single proof thus covers a change of layout that moves tokens apart and one that does
  not.
* `n`: the budgets of the recursive parsers count tokens, so the number of tokens is kept in view.
  It can only fall.
* `p` and `q`: the two parsers need not have the same budget. The first one may run out of its
  budget, and then nothing is said about the second one. So the relation is not symmetric, and it
  allows the second parser to be the one with **the larger budget**, which is what makes a parser
  agree with the same parser at the start of a longer text (`agrees_roundsWithin`). Where it holds
  in both directions, budgets are of no account (`Matching.sameResult`).

## The rules

There is one rule for each way in which parsers are put together, and one for each elementary
parser. A proof that two parsers agree follows their common text. The answers of elementary parsers
are equal, but for those of `peek` and `here`, which show a place.
-/

namespace GoDecorator

/-- The error without its place. -/
def ParseError.unplaced : ParseError → ParseError
  | .unexpectedToken expected got _ => .unexpectedToken expected got .unknown
  | .expectedIdent got _ => .expectedIdent got .unknown
  | .expectedType got _ => .expectedType got .unknown
  | .unsupportedType what _ => .unsupportedType what .unknown
  | .unbalancedBlock _ => .unbalancedBlock .unknown
  | .overBudget _ => .overBudget .unknown

/-- Both results are answers that are related, or both are errors that differ in their places
only. -/
inductive SameResult {α β : Type} (R : α → β → Prop) :
    Except ParseError α → Except ParseError β → Prop
  | ok {a : α} {b : β} (h : R a b) : SameResult R (.ok a) (.ok b)
  | error {e f : ParseError} (h : e.unplaced = f.unplaced) : SameResult R (.error e) (.error f)

/-- Results stay the same but for places if the steps after them do. -/
theorem SameResult.bind {α β γ δ : Type} {R : α → β → Prop} {S : γ → δ → Prop}
    {x : Except ParseError α} {y : Except ParseError β} {f : α → Except ParseError γ}
    {g : β → Except ParseError δ} (h : SameResult R x y)
    (hf : ∀ a b, R a b → SameResult S (f a) (g b)) : SameResult S (x >>= f) (y >>= g) := by
  cases h with
  | ok h => exact hf _ _ h
  | error h => exact .error h

namespace Parser

open Token (Kind)

/-- Whether each token but the last one touches the token after it. -/
def touchings (ts : List Token) : List Bool :=
  List.zipWith (fun t u ↦ t.span.touches u.span) ts ts.tail

/-- Leaving out the first token leaves out what is said about it. -/
theorem touchings_tail (ts : List Token) : touchings ts.tail = (touchings ts).tail := by
  cases ts with
  | nil => rfl
  | cons t ts => cases ts <;> rfl

/-- Tokens of the same kinds, at most `n` of them. If `tight` holds, they touch in the same
places. -/
structure Alike (n : Nat) (tight : Prop) (ts us : List Token) : Prop where
  /-- The kinds are the same. -/
  kinds : ts.map Token.kind = us.map Token.kind
  /-- There are not too many. -/
  length : ts.length ≤ n
  /-- They touch in the same places. -/
  touching : tight → touchings ts = touchings us

/-- What two parsers that agree come to. -/
inductive Matching {α β : Type} (n : Nat) (tight : Prop) (R : α → β → Prop) :
    Except ParseError (α × List Token) → Except ParseError (β × List Token) → Prop
  /-- Both return. -/
  | returned {a : α} {b : β} {ts us : List Token} (answers : R a b) (rest : Alike n tight ts us) :
    Matching n tight R (.ok (a, ts)) (.ok (b, us))
  /-- Both fail. -/
  | failed {e f : ParseError} (errors : e.unplaced = f.unplaced) :
    Matching n tight R (.error e) (.error f)
  /-- The budget of the first one is used up. -/
  | overBudget (span : Span) (x : Except ParseError (β × List Token)) :
    Matching n tight R (.error (.overBudget span)) x

/-- The two parsers do the same on at most `n` tokens of the same kinds, unless the budget of the
first one is used up. -/
def Agrees {α β : Type} (n : Nat) (tight : Prop) (p : Parser α) (q : Parser β)
    (R : α → β → Prop) : Prop :=
  ∀ ts us, Alike n tight ts us → Matching n tight R (p.run ts) (q.run us)

variable {α β γ δ : Type} {n : Nat} {tight : Prop} {p : Parser α} {q : Parser β}
  {R : α → β → Prop} {S : γ → δ → Prop}

/-! ### Tokens of the same kinds -/

section Alike

variable {ts us : List Token}

/-- Tokens that are the same but for their places, and touch in the same ones. -/
theorem alike_of_touchings (h : ts.map Token.kind = us.map Token.kind)
    (ht : tight → touchings ts = touchings us) : Alike us.length tight ts us :=
  ⟨h, by simpa using Nat.le_of_eq (congrArg List.length h), ht⟩

/-- Tokens of the same kinds, of whose places nothing is known. -/
theorem alike_of_kinds (h : ts.map Token.kind = us.map Token.kind) : Alike us.length False ts us :=
  alike_of_touchings h False.elim

theorem Alike.length_eq (h : Alike n tight ts us) : ts.length = us.length := by
  simpa using congrArg List.length h.kinds

/-- They are still alike without the first token. -/
theorem Alike.tail (h : Alike n tight ts us) : Alike n tight ts.tail us.tail := by
  have hlength : ts.tail.length ≤ ts.length := (List.tail_sublist ts).length_le
  exact ⟨by rw [List.map_tail, List.map_tail, h.kinds], Nat.le_trans hlength h.length,
    fun ht ↦ by rw [touchings_tail, touchings_tail, h.touching ht]⟩

/-- Tokens left out for their kinds are left out of both lists. -/
theorem Alike.dropWhile (h : Alike n tight ts us) (f : Kind → Bool) :
    Alike n tight (ts.dropWhile fun t ↦ f t.kind) (us.dropWhile fun t ↦ f t.kind) := by
  induction ts generalizing us with
  | nil =>
    obtain rfl := List.map_eq_nil_iff.1 h.kinds.symm
    exact h
  | cons t ts ih =>
    obtain ⟨u, us, rfl, hkind, -⟩ := List.map_eq_cons_iff.1 h.kinds.symm
    rw [List.dropWhile_cons, List.dropWhile_cons, hkind]
    split
    · exact ih h.tail
    · exact h

theorem Alike.first (h : Alike n tight ts us) :
    (Parser.first ts).kind = (Parser.first us).kind := by
  have hkinds := h.kinds
  cases ts with
  | nil => rw [List.map_eq_nil_iff.1 hkinds.symm]
  | cons t ts =>
    obtain ⟨u, us, rfl, hkind, -⟩ := List.map_eq_cons_iff.1 hkinds.symm
    exact hkind.symm

theorem Alike.second (h : Alike n tight ts us) : ts[1]?.map Token.kind = us[1]?.map Token.kind := by
  rw [← List.getElem?_map, ← List.getElem?_map, h.kinds]

end Alike

/-! ### Sequences -/

/-- Where the first parser returns, so does the second one. -/
theorem Agrees.exists_run {a : α} {ts us ts' : List Token} (h : Agrees n tight p q R)
    (hts : Alike n tight ts us) (hrun : p.run ts = .ok (a, ts')) :
    ∃ b us', q.run us = .ok (b, us') ∧ R a b ∧ Alike n tight ts' us' := by
  have hmatching := h ts us hts
  rw [hrun] at hmatching
  generalize q.run us = y at hmatching ⊢
  cases hmatching with
  | returned answers rest => exact ⟨_, _, rfl, answers, rest⟩

/-- **Where each parser agrees with the other, budgets do not matter**: if one of them is used up,
so is the other. -/
theorem Matching.sameResult {n' : Nat} {tight' : Prop} {R' : β → α → Prop}
    {x : Except ParseError (α × List Token)} {y : Except ParseError (β × List Token)}
    (h : Matching n tight R x y) (h' : Matching n' tight' R' y x) :
    SameResult R (x.map Prod.fst) (y.map Prod.fst) := by
  cases h with
  | returned answers _ => exact .ok answers
  | failed errors => exact .error errors
  | overBudget span =>
    cases h' with
    | failed errors => exact .error errors.symm
    | overBudget => exact .error rfl

/-- Two answers that are given without taking a token. -/
theorem agrees_pure {a : α} {b : β} (h : R a b) : Agrees n tight (pure a) (pure b) R :=
  fun _ _ hts ↦ .returned h hts

/-- Two failures that differ in their places only. -/
theorem agrees_throw {e f : ParseError} (h : e.unplaced = f.unplaced) :
    Agrees n tight (throw e : Parser α) (throw f : Parser β) R :=
  fun _ _ _ ↦ .failed h

/-- **Sequences agree if their parts do.** The second parts are compared for related answers
only. -/
theorem Agrees.bind {f : α → Parser γ} {g : β → Parser δ} (hp : Agrees n tight p q R)
    (hf : ∀ a b, R a b → Agrees n tight (f a) (g b) S) : Agrees n tight (p >>= f) (q >>= g) S := by
  intro ts us hts
  rw [StateT.run_bind, StateT.run_bind]
  generalize hx : p.run ts = x
  generalize hy : q.run us = y
  have hxy := hp ts us hts
  rw [hx, hy] at hxy
  cases hxy with
  | returned answers rest => exact hf _ _ answers _ _ rest
  | failed errors => exact .failed errors
  | overBudget span x => exact .overBudget span _

/-- Answers that are related more closely are related. -/
theorem Agrees.mono {R' : α → β → Prop} (h : Agrees n tight p q R) (hR : ∀ a b, R a b → R' a b) :
    Agrees n tight p q R' := by
  rw [← bind_pure p, ← bind_pure q]
  exact h.bind fun a b hab ↦ agrees_pure (hR a b hab)

/-- What comes after two equal answers. -/
theorem Agrees.bindEq {p q : Parser α} {f : α → Parser γ} {g : α → Parser δ}
    (hp : Agrees n tight p q Eq) (hf : ∀ a, Agrees n tight (f a) (g a) S) :
    Agrees n tight (p >>= f) (q >>= g) S :=
  hp.bind fun a _ h ↦ h ▸ hf a

/-- Nothing comes after a failure. -/
theorem agrees_throw_bind {e f : ParseError} (h : e.unplaced = f.unplaced) {k : α → Parser γ}
    {l : β → Parser δ} : Agrees n tight (throw e >>= k) (throw f >>= l) S :=
  (@agrees_throw _ _ _ _ (fun _ _ ↦ False) _ _ h).bind fun _ _ h ↦ h.elim

/-- The answers may be turned into others that are related. -/
theorem Agrees.map {f : α → γ} {g : β → δ} (hp : Agrees n tight p q R)
    (hf : ∀ a b, R a b → S (f a) (g b)) : Agrees n tight (f <$> p) (g <$> q) S := by
  rw [← bind_pure_comp, ← bind_pure_comp]
  exact hp.bind fun a b h ↦ agrees_pure (hf a b h)

/-- A condition that does not depend on the tokens is the same for both. -/
theorem agrees_ite {c : Prop} [Decidable c] {p' : Parser α} {q' : Parser β}
    (h : c → Agrees n tight p q R) (h' : ¬ c → Agrees n tight p' q' R) :
    Agrees n tight (if c then p else p') (if c then q else q') R := by
  by_cases hc : c
  · rw [if_pos hc, if_pos hc]
    exact h hc
  · rw [if_neg hc, if_neg hc]
    exact h' hc

/-- Two steps that look at no token. -/
theorem agrees_lift {x : Except ParseError α} {y : Except ParseError β} (h : SameResult R x y) :
    Agrees n tight (liftM x : Parser α) (liftM y : Parser β) R := by
  intro ts us hts
  cases h with
  | ok h => exact .returned h hts
  | error h => exact .failed h

/-- What both parsers can see of the tokens is alike. -/
theorem agrees_get :
    Agrees n tight (get : Parser (List Token)) (get : Parser (List Token)) (Alike n tight) :=
  fun _ _ hts ↦ .returned hts hts

theorem agrees_set {ts us : List Token} (h : Alike n tight ts us) :
    Agrees n tight (set ts : Parser PUnit) (set us : Parser PUnit) fun _ _ ↦ True :=
  fun _ _ _ ↦ .returned trivial h

theorem agrees_modify {f : List Token → List Token}
    (h : ∀ ts us, Alike n tight ts us → Alike n tight (f ts) (f us)) :
    Agrees n tight (modify f : Parser PUnit) (modify f : Parser PUnit) fun _ _ ↦ True :=
  fun ts us hts ↦ .returned trivial (h ts us hts)

/-! ### Elementary parsers -/

/-- The next tokens are of one kind, but may stand in different places. -/
theorem agrees_peek : Agrees n tight peek peek fun t u ↦ t.kind = u.kind :=
  agrees_get.bind fun _ _ h ↦ agrees_pure h.first

/-- What comes after the next token was looked at: its place may differ. -/
theorem agrees_peek_bind {f : Token → Parser γ} {g : Token → Parser δ}
    (h : ∀ k s s', Agrees n tight (f ⟨k, s⟩) (g ⟨k, s'⟩) S) :
    Agrees n tight (peek >>= f) (peek >>= g) S := by
  refine agrees_peek.bind fun t u htu ↦ ?_
  obtain ⟨k, s⟩ := t
  obtain ⟨k', s'⟩ := u
  obtain rfl : k = k' := htu
  exact h k s s'

theorem agrees_kind : Agrees n tight kind kind Eq :=
  agrees_peek.bind fun _ _ h ↦ agrees_pure h

theorem agrees_here : Agrees n tight here here fun _ _ ↦ True :=
  agrees_peek.bind fun _ _ _ ↦ agrees_pure trivial

theorem agrees_secondKind? : Agrees n tight secondKind? secondKind? Eq :=
  agrees_get.bind fun _ _ h ↦ agrees_pure h.second

theorem agrees_skip : Agrees n tight skip skip fun _ _ ↦ True := agrees_modify fun _ _ ↦ Alike.tail

theorem agrees_isNext (k : Kind) : Agrees n tight (isNext k) (isNext k) Eq :=
  agrees_kind.bindEq fun _ ↦ agrees_pure rfl

theorem agrees_atEnd : Agrees n tight atEnd atEnd Eq := agrees_isNext .eof

theorem agrees_atSeparator : Agrees n tight atSeparator atSeparator Eq :=
  agrees_kind.bindEq fun _ ↦ agrees_pure rfl

theorem agrees_skipNewlines : Agrees n tight skipNewlines skipNewlines fun _ _ ↦ True :=
  agrees_modify fun _ _ h ↦ h.dropWhile (· == .newline)

theorem agrees_skipSeparators : Agrees n tight skipSeparators skipSeparators fun _ _ ↦ True :=
  agrees_modify fun _ _ h ↦ h.dropWhile Kind.isSeparator

/-- Complaints about the next token name the same kind. -/
theorem agrees_unexpected (expected : Expectation) :
    Agrees n tight (unexpected expected : Parser α) (unexpected expected : Parser β) R :=
  agrees_peek_bind fun _ _ _ ↦ agrees_throw rfl

/-- A parser without a budget agrees with every parser. -/
theorem agrees_overBudget (q : Parser β) : Agrees n tight (overBudget : Parser α) q R :=
  fun _ _ _ ↦ .overBudget _ _

/-- A token of the kind is taken by both, or by neither. -/
theorem agrees_accept (k : Kind) : Agrees n tight (accept k) (accept k) Eq := by
  refine (agrees_isNext k).bindEq fun _ ↦ agrees_ite (fun _ ↦ ?_) fun _ ↦ agrees_pure rfl
  exact agrees_skip.bind fun _ _ _ ↦ agrees_pure rfl

theorem agrees_expect (k : Kind) : Agrees n tight (expect k) (expect k) fun _ _ ↦ True :=
  (agrees_accept k).bindEq fun _ ↦
    agrees_ite (fun _ ↦ agrees_pure trivial) fun _ ↦ agrees_unexpected _

theorem agrees_ident : Agrees n tight ident ident Eq := by
  refine agrees_peek_bind fun k s s' ↦ ?_
  cases k with
  | ident name => exact agrees_skip.bind fun _ _ _ ↦ agrees_pure rfl
  | _ => exact agrees_throw rfl

/-! ### Repetition -/

/-- The rounds go on in the same way, and their items, if they have any, are related. -/
inductive Round.Rel (R : α → β → Prop) : Round α → Round β → Prop
  | stop : Rel R .stop .stop
  | last {a : α} {b : β} (h : R a b) : Rel R (.last a) (.last b)
  | more {a : α} {b : β} (h : R a b) : Rel R (.more a) (.more b)

/-- **A repetition agrees with one of a larger budget.** -/
theorem agrees_roundsWithin {round : Parser (Round α)} {round' : Parser (Round β)}
    (h : Agrees n tight round round' (Round.Rel R)) {budget budget' : Nat} (hb : budget ≤ budget') :
    Agrees n tight (roundsWithin round budget) (roundsWithin round' budget') (List.Forall₂ R) := by
  induction budget generalizing budget' with
  | zero => exact agrees_overBudget _
  | succ budget ih =>
    obtain ⟨budget', rfl⟩ := Nat.exists_eq_add_one.2 (Nat.lt_of_lt_of_le (Nat.succ_pos _) hb)
    refine h.bind fun r r' hr ↦ ?_
    cases hr with
    | stop => exact agrees_pure .nil
    | last hab => exact agrees_pure (.cons hab .nil)
    | more hab =>
      exact (ih (Nat.le_of_succ_le_succ hb)).bind fun _ _ hrest ↦ agrees_pure (.cons hab hrest)

/-- **Repetitions agree if their rounds do.** -/
theorem agrees_rounds {round : Parser (Round α)} {round' : Parser (Round β)}
    (h : Agrees n tight round round' (Round.Rel R)) :
    Agrees n tight (rounds round) (rounds round') (List.Forall₂ R) :=
  agrees_get.bind fun _ _ hts ↦ agrees_roundsWithin h
    (Nat.succ_le_succ (Nat.le_of_eq hts.length_eq))

/-- The form for equal items, whose lists are equal. -/
theorem agrees_rounds_eq {round round' : Parser (Round α)}
    (h : Agrees n tight round round' (Round.Rel Eq)) :
    Agrees n tight (rounds round) (rounds round') Eq :=
  (agrees_rounds h).mono fun _ _ hitems ↦ List.forall₂_eq_eq_eq ▸ hitems

/-- Lists with commas agree if their items do. -/
theorem agrees_commaList {item : Parser α} {item' : Parser β} (h : Agrees n tight item item' R) :
    Agrees n tight (commaList item) (commaList item') (List.Forall₂ R) := by
  refine agrees_rounds (agrees_skipNewlines.bind fun _ _ _ ↦ (agrees_accept _).bindEq fun _ ↦
    agrees_ite (fun _ ↦ agrees_pure .stop) fun _ ↦ h.bind fun x y hxy ↦ ?_)
  refine agrees_skipNewlines.bind fun _ _ _ ↦ (agrees_accept _).bindEq fun _ ↦
    agrees_ite (fun _ ↦ agrees_pure (.more hxy)) fun _ ↦ ?_
  exact (agrees_expect _).bind fun _ _ _ ↦ agrees_pure (.last hxy)

end Parser

end GoDecorator
