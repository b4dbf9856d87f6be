import GoDecorator.Proofs.Decl.Provenance

/-!
# Progress and failure of parsers

A list of tokens is *complete* if the end of the source is its last token and only that
(`IsComplete`). On such a list no parser runs out of tokens, since none of them takes the end of the
source. `Ahead source n ts` says that `ts` is what is left of `source` at some point, with at most
`n` tokens.

`Proceeds source p ts post` is what is proved of each parser. **It returns with the property `post`,
or it fails with an error that points into the source** (`ParseError.PlacedIn`). The error is never
that a budget is used up; that is why the number of tokens is kept in view. A parser that takes a
token turns `Ahead source n` into `Ahead source (n - 1)`, and so does every round of a repetition
that is not its last, so that the budget for the next round suffices again.

One kind of error points at no token. A type without a name in a list where another entry has both a
name and a type is found only when the list is complete, and then its place is not known any more
(`ParseError.LacksName`).

As for `EnsuresOn` there is one rule for each way in which parsers are put together and one for
each elementary parser, and a proof about a parser follows its text.
-/

namespace GoDecorator

open Token (Kind)

/-! ### Errors -/

namespace ParseError

/-- Whether the error is that a budget is used up. -/
def isOverBudget : ParseError → Bool
  | overBudget _ => true
  | _ => false

/-- **The error is raised for a type without a name in a list where another entry has both.** The
list stands somewhere in the source, and its entries cannot be resolved for this reason. -/
def LacksName (source : List Token) (e : ParseError) : Prop :=
  ∃ us es rest s v, us <:+ source ∧ Parser.ListAt Parser.EntryAt us es rest ∧
    es.any ParamEntry.isNamed = true ∧ .bare s v ∈ es ∧ resolveParams es = .error e ∧
    e = .expectedIdent (.shape s) .unknown

/-- **The error points into the source**, or it is one that has no place. -/
inductive PlacedIn (source : List Token) (e : ParseError) : Prop
  /-- The error has the place of a token. -/
  | token {t : Token} (ht : t ∈ source) (hspan : e.span = t.span) (hbudget : e.isOverBudget = false)
  /-- The error has no place. -/
  | nowhere (h : e.LacksName source)

/-- Neither of the two is the error of a budget. -/
theorem PlacedIn.isOverBudget_eq {source : List Token} {e : ParseError} (h : e.PlacedIn source) :
    e.isOverBudget = false := by
  cases h with
  | token _ _ hbudget => exact hbudget
  | nowhere h =>
    obtain ⟨_, _, _, _, _, -, -, -, -, -, rfl⟩ := h
    rfl

end ParseError

namespace Parser

/-! ### What is left of a source -/

/-- **The end of the source comes last, and only there.** -/
inductive IsComplete : List Token → Prop
  | last {t : Token} (ht : t.kind = .eof) : IsComplete [t]
  | cons {t : Token} {ts : List Token} (ht : t.kind ≠ .eof) (hts : IsComplete ts) :
    IsComplete (t :: ts)

namespace IsComplete

variable {ts : List Token}

theorem ne_nil (h : IsComplete ts) : ts ≠ [] := by
  cases h <;> exact List.cons_ne_nil _ _

theorem first_mem (h : IsComplete ts) : first ts ∈ ts := by
  cases h <;> exact List.mem_cons_self

/-- Where another token than the end is taken, tokens are left. -/
theorem tail (h : IsComplete ts) (hne : (first ts).kind ≠ .eof) : IsComplete ts.tail := by
  cases h with
  | last ht => exact absurd ht hne
  | cons _ hts => exact hts

/-- The end of the source is not among the tokens that are left out. -/
theorem dropWhile (h : IsComplete ts) {p : Token → Bool} (hp : ∀ t, t.kind = .eof → p t = false) :
    IsComplete (ts.dropWhile p) := by
  induction h with
  | last ht =>
    rw [List.dropWhile_cons_of_neg (by simp [hp _ ht])]
    exact .last ht
  | @cons t ts ht hts ih =>
    rw [List.dropWhile_cons]
    split
    · exact ih
    · exact .cons ht hts

end IsComplete

/-- **The tokens are what is left of the source**, and there are at most so many of them. -/
structure Ahead (source : List Token) (n : Nat) (ts : List Token) : Prop where
  /-- They stand at the end of the source. -/
  suffix : ts <:+ source
  /-- The end of the source is among them. -/
  complete : IsComplete ts
  /-- Their number. -/
  length_le : ts.length ≤ n

namespace Ahead

variable {source ts : List Token} {n : Nat}

theorem mono {m : Nat} (h : Ahead source n ts) (hnm : n ≤ m) : Ahead source m ts :=
  ⟨h.suffix, h.complete, h.length_le.trans hnm⟩

theorem length (h : Ahead source n ts) : Ahead source ts.length ts :=
  ⟨h.suffix, h.complete, le_rfl⟩

theorem first_mem (h : Ahead source n ts) : first ts ∈ source :=
  h.suffix.subset h.complete.first_mem

theorem pos (h : Ahead source n ts) : 0 < n :=
  (List.length_pos_iff.2 h.complete.ne_nil).trans_le h.length_le

theorem tail (h : Ahead source n ts) (hne : (first ts).kind ≠ .eof) :
    Ahead source (n - 1) ts.tail := by
  refine ⟨(List.tail_suffix ts).trans h.suffix, h.complete.tail hne, ?_⟩
  rw [List.length_tail]
  exact Nat.sub_le_sub_right h.length_le 1

theorem dropWhile (h : Ahead source n ts) {p : Token → Bool}
    (hp : ∀ t, t.kind = .eof → p t = false) : Ahead source n (ts.dropWhile p) :=
  ⟨(List.dropWhile_suffix p).trans h.suffix, h.complete.dropWhile hp,
    (List.dropWhile_suffix p).length_le.trans h.length_le⟩

end Ahead

/-! ### Parsers that proceed -/

/-- **The parser returns with the property, or it fails at a place of the source.** -/
structure Proceeds {α : Type} (source : List Token) (p : Parser α) (ts : List Token)
    (post : α → List Token → Prop) : Prop where
  /-- What it returns, with the tokens that are left. -/
  returns : ∀ a rest, p.run ts = .ok (a, rest) → post a rest
  /-- Where it fails. -/
  fails : ∀ e, p.run ts = .error e → e.PlacedIn source

/-- The parser takes a token where at most so many are left, or fails at a place of the source. -/
def Advances {α : Type} (source : List Token) (n : Nat) (p : Parser α) : Prop :=
  ∀ m ts, m ≤ n → Ahead source m ts → Proceeds source p ts fun _ ↦ Ahead source (m - 1)

variable {α β : Type} {source ts : List Token} {n : Nat} {p : Parser α}
  {post : α → List Token → Prop}

/-! ### Sequences -/

/-- What is known of the answer may be weakened. -/
theorem Proceeds.mono {post' : α → List Token → Prop} (h : Proceeds source p ts post)
    (hpost : ∀ a rest, post a rest → post' a rest) : Proceeds source p ts post' :=
  ⟨fun a rest hrun ↦ hpost a rest (h.returns a rest hrun), h.fails⟩

/-- Only what a parser does matters, not how it is written. -/
theorem Proceeds.of_run_eq {q : Parser α} {us : List Token} (h : Proceeds source q us post)
    (hrun : p.run ts = q.run us) : Proceeds source p ts post :=
  ⟨fun a rest hp ↦ h.returns a rest (hrun.symm.trans hp), fun e hp ↦ h.fails e (hrun.symm.trans hp)⟩

/-- What is known of the run may be used afterwards. -/
theorem Proceeds.with_run (h : Proceeds source p ts post) :
    Proceeds source p ts fun a rest ↦ p.run ts = .ok (a, rest) ∧ post a rest :=
  ⟨fun a rest hrun ↦ ⟨hrun, h.returns a rest hrun⟩, h.fails⟩

/-- An answer that is given without taking a token. -/
theorem proceeds_pure {a : α} (h : post a ts) : Proceeds source (pure a) ts post := by
  refine ⟨fun b rest hrun ↦ ?_, fun e hrun ↦ by cases hrun⟩
  obtain ⟨rfl, rfl⟩ := Prod.mk.inj (Except.ok.inj hrun)
  exact h

/-- A failure at a place of the source. -/
theorem proceeds_throw {e : ParseError} (h : e.PlacedIn source) :
    Proceeds source (throw e : Parser α) ts post := by
  refine ⟨fun a rest hrun ↦ (by cases hrun), fun e' hrun ↦ ?_⟩
  obtain rfl := Except.error.inj hrun
  exact h

/-- **In a sequence, the second part starts where the first one ends.** It may rely on what is known
of the answer and of the tokens that are left. -/
theorem Proceeds.bind {f : α → Parser β} {post' : β → List Token → Prop}
    (h : Proceeds source p ts post)
    (hf : ∀ a rest, post a rest → Proceeds source (f a) rest post') :
    Proceeds source (p >>= f) ts post' := by
  have hrun : (p >>= f).run ts = p.run ts >>= fun r ↦ (f r.1).run r.2 := rfl
  cases hp : p.run ts with
  | error e =>
    rw [hp, error_bind] at hrun
    exact (@proceeds_throw _ _ ts _ _ (h.fails e hp)).of_run_eq hrun
  | ok r =>
    rw [hp, ok_bind] at hrun
    exact (hf r.1 r.2 (h.returns r.1 r.2 hp)).of_run_eq hrun

/-- Nothing comes after a failure. -/
theorem proceeds_throw_bind {e : ParseError} (h : e.PlacedIn source) {f : α → Parser β}
    {post' : β → List Token → Prop} : Proceeds source (throw e >>= f) ts post' :=
  (@proceeds_throw _ _ _ (fun _ _ ↦ False) _ h).bind fun _ _ h ↦ h.elim

/-- The answer may be changed, as nothing but the tokens that are left counts any more. -/
theorem Proceeds.map {f : α → β} {left : List Token → Prop} (h : Proceeds source p ts post)
    (hleft : ∀ a rest, post a rest → left rest) : Proceeds source (f <$> p) ts fun _ ↦ left := by
  rw [← bind_pure_comp]
  exact h.bind fun a rest ha ↦ proceeds_pure (hleft a rest ha)

theorem proceeds_ite {c : Prop} [Decidable c] {q : Parser α} (hp : c → Proceeds source p ts post)
    (hq : ¬ c → Proceeds source q ts post) : Proceeds source (if c then p else q) ts post := by
  by_cases hc : c
  · rw [if_pos hc]
    exact hp hc
  · rw [if_neg hc]
    exact hq hc

/-- A step that looks at no token has to fail at a place of the source, too. -/
theorem proceeds_lift {x : Except ParseError α} (hok : ∀ a, x = .ok a → post a ts)
    (herror : ∀ e, x = .error e → e.PlacedIn source) :
    Proceeds source (liftM x : Parser α) ts post := by
  cases x with
  | error e => exact proceeds_throw (herror e rfl)
  | ok a => exact proceeds_pure (hok a rfl)

/-! ### Looking ahead

These steps neither fail nor take a token, so that what follows them is all that has to be
considered.
-/

section Looking

variable {post' : β → List Token → Prop}

theorem Proceeds.get {f : List Token → Parser β} (h : Proceeds source (f ts) ts post') :
    Proceeds source (get >>= f) ts post' := h.of_run_eq rfl

theorem Proceeds.peek {f : Token → Parser β} (h : Proceeds source (f (first ts)) ts post') :
    Proceeds source (Parser.peek >>= f) ts post' := h.of_run_eq rfl

theorem Proceeds.kind {f : Kind → Parser β} (h : Proceeds source (f (first ts).kind) ts post') :
    Proceeds source (Parser.kind >>= f) ts post' := h.of_run_eq rfl

theorem Proceeds.here {f : Span → Parser β} (h : Proceeds source (f (first ts).span) ts post') :
    Proceeds source (Parser.here >>= f) ts post' := h.of_run_eq rfl

theorem Proceeds.secondKind? {f : Option Kind → Parser β}
    (h : Proceeds source (f (ts[1]?.map Token.kind)) ts post') :
    Proceeds source (Parser.secondKind? >>= f) ts post' := h.of_run_eq rfl

theorem Proceeds.isNext {k : Kind} {f : Bool → Parser β}
    (h : Proceeds source (f ((first ts).kind == k)) ts post') :
    Proceeds source (Parser.isNext k >>= f) ts post' := h.of_run_eq rfl

theorem Proceeds.atSeparator {f : Bool → Parser β}
    (h : Proceeds source (f ((first ts).kind.isSeparator || (first ts).kind == .eof)) ts post') :
    Proceeds source (Parser.atSeparator >>= f) ts post' := h.of_run_eq rfl

end Looking

/-- The budget that a parser starts with is enough, if a budget of the number of tokens is. -/
theorem proceeds_of_budget {within : Nat → Parser α}
    (hwithin : ∀ budget, Advances source budget (within budget)) (h : Ahead source n ts) :
    Proceeds source (do within ((← get).length + 1)) ts fun _ ↦ Ahead source (n - 1) := by
  have hall := hwithin (ts.length + 1) ts.length ts (Nat.le_succ _) h.length
  exact .get (hall.mono fun _ rest hrest ↦ hrest.mono (Nat.sub_le_sub_right h.length_le 1))

/-- A complaint about the next token points at it. -/
theorem proceeds_unexpected (h : Ahead source n ts) (expected : Expectation) :
    Proceeds source (unexpected expected : Parser α) ts post :=
  .peek (proceeds_throw (.token h.first_mem rfl rfl))

/-! ### Taking tokens -/

/-- Taking a token that is not the end of the source. -/
theorem proceeds_skip (h : Ahead source n ts) (hne : (first ts).kind ≠ .eof) :
    Proceeds source skip ts fun _ ↦ Ahead source (n - 1) := by
  refine ⟨fun a rest hrun ↦ ?_, fun e hrun ↦ by cases hrun⟩
  obtain ⟨-, rfl⟩ := Prod.mk.inj (Except.ok.inj hrun)
  exact h.tail hne

/-- A token is taken of which it is known what comes after it. -/
theorem Proceeds.skip {f : Unit → Parser β} {post' : β → List Token → Prop}
    (h : Proceeds source (f ()) ts.tail post') : Proceeds source (Parser.skip >>= f) ts post' :=
  h.of_run_eq rfl

theorem Proceeds.set {us : List Token} {f : PUnit → Parser β} {post' : β → List Token → Prop}
    (h : Proceeds source (f ⟨⟩) us post') : Proceeds source (set us >>= f) ts post' :=
  h.of_run_eq rfl

/-- Tokens may be left out as long as the end of the source is not. -/
theorem proceeds_dropWhile (h : Ahead source n ts) {p : Token → Bool}
    (hp : ∀ t, t.kind = .eof → p t = false) :
    Proceeds source (modify fun ts ↦ ts.dropWhile p : Parser PUnit) ts fun _ ↦ Ahead source n := by
  refine ⟨fun a rest hrun ↦ ?_, fun e hrun ↦ by cases hrun⟩
  obtain ⟨-, rfl⟩ := Prod.mk.inj (Except.ok.inj hrun)
  exact h.dropWhile hp

theorem proceeds_skipNewlines (h : Ahead source n ts) :
    Proceeds source skipNewlines ts fun _ ↦ Ahead source n :=
  proceeds_dropWhile h fun t ht ↦ by rw [ht]; rfl

theorem proceeds_skipSeparators (h : Ahead source n ts) :
    Proceeds source skipSeparators ts fun _ ↦ Ahead source n :=
  proceeds_dropWhile h fun t ht ↦ by rw [ht]; rfl

/-- Either the token is taken, or the tokens stay as they are. -/
theorem proceeds_accept (h : Ahead source n ts) {k : Kind} (hk : k ≠ .eof) :
    Proceeds source (accept k) ts fun b rest ↦
      if b = true then Ahead source (n - 1) rest else rest = ts ∧ (first ts).kind ≠ k := by
  refine .isNext (proceeds_ite (fun hnext ↦ ?_) fun hnext ↦ ?_)
  · have hfirst : (first ts).kind = k := beq_iff_eq.1 hnext
    exact (proceeds_skip h (hfirst ▸ hk)).bind fun _ rest hrest ↦ proceeds_pure hrest
  · exact proceeds_pure ⟨rfl, mt beq_iff_eq.2 hnext⟩

/-- A token that may be there or not. -/
theorem proceeds_optional (h : Ahead source n ts) {k : Kind} (hk : k ≠ .eof) :
    Proceeds source (accept k) ts fun _ ↦ Ahead source n := by
  refine (proceeds_accept h hk).mono fun b rest hb ↦ ?_
  cases b with
  | true => exact Ahead.mono hb (Nat.sub_le n 1)
  | false => exact hb.1 ▸ h

/-- One of two ways is taken, depending on the next token. -/
theorem Proceeds.accept_ite (h : Ahead source n ts) {k : Kind} (hk : k ≠ .eof) {q : Parser α}
    (hyes : ∀ rest, Ahead source (n - 1) rest → Proceeds source p rest post)
    (hno : (first ts).kind ≠ k → Proceeds source q ts post) :
    Proceeds source (accept k >>= fun b ↦ if b = true then p else q) ts post := by
  refine (proceeds_accept h hk).bind fun b rest hb ↦ ?_
  cases b with
  | true => exact hyes rest hb
  | false =>
    obtain ⟨rfl, hne⟩ := hb
    exact hno hne

/-- A token that must be there: it is taken, or the failure points at the one in its place. -/
theorem proceeds_expect (h : Ahead source n ts) {k : Kind} (hk : k ≠ .eof) :
    Proceeds source (expect k) ts fun _ ↦ Ahead source (n - 1) :=
  .accept_ite h hk (fun _ hrest ↦ proceeds_pure hrest) fun _ ↦ proceeds_unexpected h _

/-- A name that must be there. -/
theorem proceeds_ident (h : Ahead source n ts) :
    Proceeds source ident ts fun _ ↦ Ahead source (n - 1) := by
  refine .peek ?_
  split
  next name hname =>
    exact (proceeds_skip h (by simp [hname])).bind fun _ _ hrest ↦ proceeds_pure hrest
  next => exact proceeds_throw (.token h.first_mem rfl rfl)

/-! ### Repetition -/

/-- How many tokens a round takes at least, if the last one takes so many. -/
def Round.takes (least : Nat) : Round α → Nat
  | .stop => least
  | .last _ => 1
  | .more _ => 1

variable {item : α → Prop}

/-- The induction is on the budget. It exceeds the number of tokens in each round, since every round
that is followed by another one takes a token. -/
theorem proceeds_roundsWithin {round : Parser (Round α)} {least : Nat} (hleast : least ≤ 1)
    (hround : ∀ m ts, m ≤ n → Ahead source m ts → Proceeds source round ts fun r rest ↦
      r.All item ∧ Ahead source (m - r.takes least) rest) {budget m : Nat} (hmn : m ≤ n)
    (hbudget : m < budget) (h : Ahead source m ts) :
    Proceeds source (roundsWithin round budget) ts fun as rest ↦
      (∀ a ∈ as, item a) ∧ Ahead source (m - least) rest := by
  induction budget generalizing m ts with
  | zero => exact absurd hbudget (Nat.not_lt_zero m)
  | succ budget ih =>
    refine (hround m ts hmn h).bind fun r rest hr ↦ ?_
    obtain ⟨hitem, hrest⟩ := hr
    cases r with
    | stop => exact proceeds_pure ⟨by simp, hrest⟩
    | last a => exact proceeds_pure ⟨List.forall_mem_singleton.2 hitem,
        hrest.mono (Nat.sub_le_sub_left hleast m)⟩
    | more a =>
      have hpos := h.pos
      have hnext := @ih rest (m - 1) (by omega) (by omega) hrest
      refine hnext.bind fun as rest' has ↦ proceeds_pure ⟨?_, has.2.mono (by omega)⟩
      exact List.forall_mem_cons.2 ⟨hitem, has.1⟩

/-- **A repetition is not cut off**, if each of its rounds but the last takes a token. -/
theorem proceeds_rounds {round : Parser (Round α)} {least : Nat} (hleast : least ≤ 1)
    (hround : ∀ m ts, m ≤ n → Ahead source m ts → Proceeds source round ts fun r rest ↦
      r.All item ∧ Ahead source (m - r.takes least) rest) (h : Ahead source n ts) :
    Proceeds source (rounds round) ts fun as rest ↦
      (∀ a ∈ as, item a) ∧ Ahead source (n - least) rest := by
  refine .get ?_
  refine (proceeds_roundsWithin hleast hround h.length_le (Nat.lt_succ_self _) h.length).mono ?_
  exact fun as rest has ↦ ⟨has.1, has.2.mono (Nat.sub_le_sub_right h.length_le least)⟩

/-- The same, where nothing is said of the items. -/
theorem proceeds_loop {round : Parser (Round α)} {least : Nat} (hleast : least ≤ 1)
    (hround : ∀ m ts, m ≤ n → Ahead source m ts → Proceeds source round ts fun r rest ↦
      Ahead source (m - r.takes least) rest) (h : Ahead source n ts) :
    Proceeds source (rounds round) ts fun _ ↦ Ahead source (n - least) := by
  refine (@proceeds_rounds _ _ _ _ (fun _ ↦ True) _ _ hleast (fun m ts hmn hts ↦ ?_) h).mono
    fun _ rest hrest ↦ hrest.2
  refine (hround m ts hmn hts).mono fun r rest hrest ↦ ⟨?_, hrest⟩
  cases r <;> trivial

/-- A round of a list takes a token: the item, the comma after it, or the parenthesis. -/
theorem proceeds_commaRound (hitem : ∀ ts, Ahead source n ts →
      Proceeds source p ts fun a rest ↦ item a ∧ Ahead source (n - 1) rest)
    (h : Ahead source n ts) : Proceeds source (commaRound p) ts fun r rest ↦
      r.All item ∧ Ahead source (n - r.takes 1) rest := by
  refine (proceeds_skipNewlines h).bind fun _ us hus ↦ .accept_ite hus (by decide)
    (fun rest hrest ↦ proceeds_pure ⟨trivial, hrest⟩) fun _ ↦ ?_
  refine (hitem us hus).bind fun a vs hvs ↦ (proceeds_skipNewlines hvs.2).bind fun _ ws hws ↦
    .accept_ite hws (by decide) (fun rest hrest ↦ ?_) fun _ ↦ ?_
  · exact proceeds_pure ⟨hvs.1, hrest.mono (Nat.sub_le _ _)⟩
  · exact (proceeds_expect hws (by decide)).bind fun _ rest hrest ↦
      proceeds_pure ⟨hvs.1, hrest.mono (Nat.sub_le _ _)⟩

/-- A list with commas takes a token at least: its closing parenthesis. -/
theorem proceeds_commaList (hitem : ∀ m ts, m ≤ n → Ahead source m ts →
      Proceeds source p ts fun a rest ↦ item a ∧ Ahead source (m - 1) rest)
    (h : Ahead source n ts) : Proceeds source (commaList p) ts fun as rest ↦
      (∀ a ∈ as, item a) ∧ Ahead source (n - 1) rest :=
  proceeds_rounds le_rfl (fun m _ hmn hus ↦ proceeds_commaRound (hitem m · hmn) hus) h

end Parser

end GoDecorator
