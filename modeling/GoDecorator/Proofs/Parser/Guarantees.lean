import GoDecorator.Proofs.Parser.Stretches
import GoDecorator.Proofs.Token.Names

/-!
# What a parser guarantees

`EnsuresOn I p post` says of a parser that **whatever it returns has the property `post`**, provided
that the tokens have the property `I`. Nothing is said of a parser that fails: a parser that always
fails guarantees everything. Whether a parser returns is the subject of `Reads`, and where it may
fail is that of `Proceeds`.

A parser only ever leaves out tokens at the front, so if `I` is kept then (`KeptBySuffixes`), the
proviso is handed on from step to step: it is part of `EnsuresOn` that it holds of the tokens that
are left.

Mostly the proviso is that the tokens come from the lexer. Then the identifiers among them are
names, for example; that is `Ensures p post`. The other proviso in use is that the tokens are the
end of a given source, which is how an answer is traced to the place it was read from.

## The rules

There is one rule for each way in which parsers are put together, and one for each elementary
parser:

* `ensures_pure`, `EnsuresOn.bind`, `EnsuresOn.map`, `ensures_ite` and `ensures_lift` follow the
  text of a parser, and `ensures_throw_bind` cuts it off at a failure;
* `ensuresOn_kind`, `ensuresOn_secondKind?` and `ensuresOn_ident` are the ones where something is
  learned, namely that a name that was seen or taken is a name of the source;
* `ensures_rounds` and `ensures_commaList` carry a property from the items to their list.

A proof about a parser follows its text, and it takes what is said of the parts of the parser as
hypotheses, so that the same proof serves every property.
-/

namespace GoDecorator.Parser

open Token (Kind IsName Scanned)

/-- A property of tokens that is kept when some of them are left out at the front. -/
class KeptBySuffixes (I : List Token → Prop) : Prop where
  of_suffix {ts us : List Token} (h : us <:+ ts) (hts : I ts) : I us

instance : KeptBySuffixes Scanned := ⟨fun h hts ↦ hts.suffix h⟩

instance (source : List Token) : KeptBySuffixes (· <:+ source) := ⟨fun h hts ↦ h.trans hts⟩

/-- The identifiers among tokens with the property `I` have the property `N`. -/
def NamesOn (I : List Token → Prop) (N : String → Prop) : Prop :=
  ∀ ts, I ts → ∀ t ∈ ts, ∀ n, t.kind = .ident n → N n

/-- The identifiers that come from the lexer are names. -/
theorem namesOn_scanned : NamesOn Scanned IsName := fun _ hts _ ht _ hn ↦ hts.isName ht hn

/-- Nothing has to be known of the tokens if nothing is said of the identifiers. -/
theorem namesOn_true {I : List Token → Prop} : NamesOn I fun _ ↦ True :=
  fun _ _ _ _ _ _ ↦ True.intro

/-- The parser returns only values with the property `post`, where the tokens have the property
`I`. -/
def EnsuresOn {α : Type} (I : List Token → Prop) (p : Parser α) (post : α → Prop) : Prop :=
  ∀ ts, I ts → ∀ a rest, p.run ts = .ok (a, rest) → post a ∧ I rest

/-- The parser returns only values with the property, where the tokens come from the lexer. -/
abbrev Ensures {α : Type} (p : Parser α) (post : α → Prop) : Prop := EnsuresOn Scanned p post

variable {α β : Type} {I : List Token → Prop} {N : String → Prop} {p : Parser α} {post : α → Prop}

/-! ### Sequences -/

/-- A guarantee can be weakened. -/
theorem EnsuresOn.mono {post' : α → Prop} (h : EnsuresOn I p post) (hp : ∀ a, post a → post' a) :
    EnsuresOn I p post' := by
  intro ts hts a rest hrun
  obtain ⟨ha, hrest⟩ := h ts hts a rest hrun
  exact ⟨hp a ha, hrest⟩

/-- What is left of a guarantee if the answer does not matter: the proviso is kept. -/
theorem EnsuresOn.trivial (h : EnsuresOn I p post) : EnsuresOn I p fun _ ↦ True :=
  h.mono fun _ _ ↦ True.intro

/-- An answer that is given without taking a token. -/
theorem ensures_pure {a : α} (h : post a) : EnsuresOn I (pure a) post := by
  intro ts hts b rest hrun
  obtain ⟨rfl, rfl⟩ := Prod.mk.inj (Except.ok.inj hrun)
  exact ⟨h, hts⟩

/-- A parser that fails guarantees everything. -/
theorem ensures_throw (e : ParseError) : EnsuresOn I (throw e : Parser α) post := by
  intro ts _ a rest hrun
  cases hrun

/-- **In a sequence, the second part may rely on what the first one guarantees.** -/
theorem EnsuresOn.bind {f : α → Parser β} {post' : β → Prop} (hp : EnsuresOn I p post)
    (hf : ∀ a, post a → EnsuresOn I (f a) post') : EnsuresOn I (p >>= f) post' := by
  intro ts hts b rest hrun
  obtain ⟨a, us, hpr, hrun⟩ := exists_run_of_bind hrun
  obtain ⟨ha, hus⟩ := hp ts hts a us hpr
  exact hf a ha us hus b rest hrun

/-- Nothing comes after a failure. -/
theorem ensures_throw_bind (e : ParseError) (f : α → Parser β) {post' : β → Prop} :
    EnsuresOn I (throw e >>= f) post' :=
  (@ensures_throw _ _ (fun _ ↦ False) e).bind fun _ h ↦ h.elim

/-- What is made of an answer has the property if every answer with its own property gives it. -/
theorem EnsuresOn.map {f : α → β} {post' : β → Prop} (hp : EnsuresOn I p post)
    (hf : ∀ a, post a → post' (f a)) : EnsuresOn I (f <$> p) post' := by
  rw [← bind_pure_comp]
  exact hp.bind fun a ha ↦ ensures_pure (hf a ha)

/-- Each branch may rely on the condition under which it is taken. -/
theorem ensures_ite {c : Prop} [Decidable c] {q : Parser α} (hp : c → EnsuresOn I p post)
    (hq : ¬ c → EnsuresOn I q post) : EnsuresOn I (if c then p else q) post := by
  by_cases hc : c
  · rw [if_pos hc]
    exact hp hc
  · rw [if_neg hc]
    exact hq hc

/-- A step that looks at no token guarantees what its answers have in common. -/
theorem ensures_lift {x : Except ParseError α} (h : ∀ a, x = .ok a → post a) :
    EnsuresOn I (liftM x : Parser α) post := by
  intro ts hts a rest hrun
  cases x with
  | error e => cases hrun
  | ok b =>
    obtain ⟨rfl, rfl⟩ := Prod.mk.inj (Except.ok.inj hrun)
    exact ⟨h b rfl, hts⟩

/-- The tokens that are left have the property. -/
theorem ensures_get : EnsuresOn I (get : Parser (List Token)) I := by
  intro ts hts a rest hrun
  obtain ⟨rfl, rfl⟩ := Prod.mk.inj (Except.ok.inj hrun)
  exact ⟨hts, hts⟩

/-- Whatever tokens are put in their place have to keep the proviso. -/
theorem ensures_set {ts : List Token} (h : I ts) :
    EnsuresOn I (set ts : Parser PUnit) fun _ ↦ True := by
  intro _ _ a rest hrun
  obtain ⟨-, rfl⟩ := Prod.mk.inj (Except.ok.inj hrun)
  exact ⟨True.intro, h⟩

/-! ### Looking ahead -/

/-- An identifier that is next is one of the tokens. -/
theorem ensuresOn_peek (h : NamesOn I N) :
    EnsuresOn I peek fun t ↦ ∀ n, t.kind = .ident n → N n := by
  refine ensures_get.bind fun ts hts ↦ ensures_pure fun n hn ↦ ?_
  cases ts with
  | nil => cases hn
  | cons t ts => exact h _ hts t (List.mem_cons_self ..) n hn

/-- So is one whose kind is looked at. -/
theorem ensuresOn_kind (h : NamesOn I N) : EnsuresOn I kind fun k ↦ ∀ n, k = .ident n → N n :=
  (ensuresOn_peek h).bind fun _ hk ↦ ensures_pure hk

/-- So is an identifier after the next token. -/
theorem ensuresOn_secondKind? (h : NamesOn I N) :
    EnsuresOn I secondKind? fun k ↦ ∀ n, k = some (.ident n) → N n := by
  refine ensures_get.bind fun ts hts ↦ ensures_pure fun n hn ↦ ?_
  obtain ⟨t, ht, hk⟩ := Option.map_eq_some_iff.1 hn
  exact h ts hts t (List.mem_of_getElem? ht) n hk

theorem ensures_peek : EnsuresOn I peek fun _ ↦ True := (ensuresOn_peek namesOn_true).trivial

theorem ensures_kind : EnsuresOn I kind fun _ ↦ True := (ensuresOn_kind namesOn_true).trivial

theorem ensures_secondKind? : EnsuresOn I secondKind? fun _ ↦ True :=
  (ensuresOn_secondKind? namesOn_true).trivial

theorem ensures_here : EnsuresOn I here fun _ ↦ True :=
  ensures_peek.bind fun _ _ ↦ ensures_pure True.intro

theorem ensures_isNext (k : Kind) : EnsuresOn I (isNext k) fun _ ↦ True :=
  ensures_kind.bind fun _ _ ↦ ensures_pure True.intro

theorem ensures_atEnd : EnsuresOn I atEnd fun _ ↦ True := ensures_isNext .eof

theorem ensures_atSeparator : EnsuresOn I atSeparator fun _ ↦ True :=
  ensures_kind.bind fun _ _ ↦ ensures_pure True.intro

/-- A complaint about the next token is a failure. -/
theorem ensures_unexpected (expected : Expectation) :
    EnsuresOn I (unexpected expected : Parser α) post :=
  ensures_peek.bind fun _ _ ↦ ensures_throw _

/-- Nothing is returned where the budget is used up. -/
theorem ensures_overBudget : EnsuresOn I (overBudget : Parser α) post :=
  ensures_here.bind fun _ _ ↦ ensures_throw _

/-! ### Repetition -/

/-- The item of a round, if it has one, has the property. -/
def Round.All (post : α → Prop) : Round α → Prop
  | .stop => True
  | .last a => post a
  | .more a => post a

/-- The induction behind `ensures_rounds` is on the budget, with a round for each unit of it. -/
theorem ensures_roundsWithin {round : Parser (Round α)} (h : EnsuresOn I round (Round.All post))
    (budget : Nat) : EnsuresOn I (roundsWithin round budget) fun as ↦ ∀ a ∈ as, post a := by
  induction budget with
  | zero => exact ensures_overBudget
  | succ budget ih =>
    refine h.bind fun r hr ↦ ?_
    cases r with
    | stop => exact ensures_pure (by simp)
    | last a =>
      refine ensures_pure fun b hb ↦ ?_
      obtain rfl := List.mem_singleton.1 hb
      exact hr
    | more a =>
      refine ih.bind fun as has ↦ ensures_pure fun b hb ↦ ?_
      rcases List.mem_cons.1 hb with rfl | hb
      · exact hr
      · exact has b hb

/-- **What holds of every item holds of all items of a repetition.** -/
theorem ensures_rounds {round : Parser (Round α)} (h : EnsuresOn I round (Round.All post)) :
    EnsuresOn I (rounds round) fun as ↦ ∀ a ∈ as, post a :=
  ensures_get.bind fun _ _ ↦ ensures_roundsWithin h _

/-! ### Taking tokens -/

section Taking

variable [KeptBySuffixes I]

/-- Leaving out tokens at the front keeps the proviso. -/
theorem ensures_modify {f : List Token → List Token} (h : ∀ ts, f ts <:+ ts) :
    EnsuresOn I (modify f : Parser PUnit) fun _ ↦ True := by
  intro ts hts a rest hrun
  obtain ⟨-, rfl⟩ := Prod.mk.inj (Except.ok.inj hrun)
  exact ⟨True.intro, KeptBySuffixes.of_suffix (h ts) hts⟩

theorem ensures_skip : EnsuresOn I skip fun _ ↦ True := ensures_modify List.tail_suffix

theorem ensures_skipNewlines : EnsuresOn I skipNewlines fun _ ↦ True :=
  ensures_modify fun _ ↦ List.dropWhile_suffix _

theorem ensures_skipSeparators : EnsuresOn I skipSeparators fun _ ↦ True :=
  ensures_modify fun _ ↦ List.dropWhile_suffix _

theorem ensures_accept (k : Kind) : EnsuresOn I (accept k) fun _ ↦ True := by
  refine (ensures_isNext k).bind fun _ _ ↦ ensures_ite (fun _ ↦ ?_) fun _ ↦ ?_
  · exact ensures_skip.bind fun _ _ ↦ ensures_pure True.intro
  · exact ensures_pure True.intro

/-- A token that is asked for is left out like any other. -/
theorem ensures_expect (k : Kind) : EnsuresOn I (expect k) fun _ ↦ True := by
  refine (ensures_accept k).bind fun _ _ ↦ ensures_ite (fun _ ↦ ?_) fun _ ↦ ?_
  · exact ensures_pure True.intro
  · exact ensures_unexpected _

/-- **An identifier that is taken is one of the tokens.** -/
theorem ensuresOn_ident (h : NamesOn I N) : EnsuresOn I ident N := by
  refine (ensuresOn_peek h).bind fun t ht ↦ ?_
  split
  · rename_i n hn
    exact ensures_skip.bind fun _ _ ↦ ensures_pure (ht n hn)
  · exact ensures_throw _

/-- What holds of every item holds of all items of a list with commas. -/
theorem ensures_commaList {item : Parser α} (h : EnsuresOn I item post) :
    EnsuresOn I (commaList item) fun as ↦ ∀ a ∈ as, post a := by
  refine ensures_rounds (ensures_skipNewlines.bind fun _ _ ↦
    (ensures_accept _).bind fun _ _ ↦ ensures_ite (fun _ ↦ ?_) fun _ ↦ ?_)
  · exact ensures_pure True.intro
  · refine h.bind fun x hx ↦ ensures_skipNewlines.bind fun _ _ ↦
      (ensures_accept _).bind fun _ _ ↦ ensures_ite (fun _ ↦ ?_) fun _ ↦ ?_
    · exact ensures_pure hx
    · exact (ensures_expect _).bind fun _ _ ↦ ensures_pure hx

end Taking

end GoDecorator.Parser
