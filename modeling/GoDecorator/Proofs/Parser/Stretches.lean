import Mathlib.Data.List.Forall2
import GoDecorator.Parser

/-!
# What a parser does with a stretch of tokens

A parser looks at the kinds of the tokens, and at no more of what follows the part it takes than the
first token. So the behaviour of a parser on source text that is known is a statement about a list
of kinds: `Reads p ks follow post` says that the parser **takes exactly these tokens** and gives an
answer with the property `post`, wherever the next token is one that `follow` allows.

## Text that is not what the parser expects

Two statements go with it. `Fails p ks` says that the parser fails on every list of tokens that
starts with the stretch. `Stuck p ks` says that it fails, or stops in front of an ellipsis. An
ellipsis that was not taken as part of a parameter can be taken by nothing else, so a parser that is
stuck leads to a failure in every context (`Stuck.bind_fails`); there is no need to know where it
stopped.

## Going on as another parser

Most parsers take a few tokens and then do what another parser does, on fewer tokens. `Continues p
front next q f` says so in one equation, and what is known of `q` on some tokens then holds of `p`
on the same tokens with `front` before them, in each of the three senses (`Continues.reads`,
`Continues.fails`, `Continues.stuck`).

## Repetition

A repetition takes one stretch in a round (`reads_rounds`). For a list with commas, `commaKinds` are
the tokens of the list up to its parenthesis. It is read item by item (`reads_commaList`), and it
cannot be read if one of its items is stuck (`fails_commaList`). Both inductions are on the items;
they compare what comes after an item, which is another item or the end of the list (`commaTail`).
-/

namespace GoDecorator

open Token (Kind)

/-! ### Sequences -/

section Sequences

variable {ε α β : Type}

@[simp] theorem ok_bind (a : α) (f : α → Except ε β) : ((.ok a : Except ε α) >>= f) = f a := rfl

@[simp] theorem error_bind (e : ε) (f : α → Except ε β) :
    ((.error e : Except ε α) >>= f) = .error e := rfl

@[simp] theorem map_ok (f : α → β) (a : α) : f <$> (.ok a : Except ε α) = .ok (f a) := rfl

@[simp] theorem map_error (f : α → β) (e : ε) : f <$> (.error e : Except ε α) = .error e := rfl

@[simp] theorem pure_eq_ok (a : α) : (pure a : Except ε α) = .ok a := rfl

@[simp] theorem throw_eq_error (e : ε) : (throw e : Except ε α) = .error e := rfl

/-- A sequence that gives a result does so by way of its first part. -/
theorem exists_of_bind_eq_ok {x : Except ε α} {f : α → Except ε β} {b : β}
    (h : x >>= f = .ok b) : ∃ a, x = .ok a ∧ f a = .ok b := by
  cases x with
  | error e => cases h
  | ok a => exact ⟨a, rfl, h⟩

/-- Where nothing can fail after the first part, it is the first part that fails. -/
theorem eq_error_of_bind_ok {x : Except ε α} {f : α → β} {e : ε}
    (h : (x >>= fun a ↦ .ok (f a)) = .error e) : x = .error e := by
  cases x with
  | error e' =>
    obtain rfl := Except.error.inj h
    rfl
  | ok a => cases h

end Sequences

namespace Parser

variable {α β ξ : Type} {p : Parser α} {ks : List Kind} {ts rest : List Token}

@[simp] theorem first_cons (t : Token) (ts : List Token) : first (t :: ts) = t := rfl

/-- A token of a known kind: the parsers compute on it. -/
theorem exists_eq_mk {t : Token} {k : Kind} (h : t.kind = k) : ∃ span, t = ⟨k, span⟩ := by
  obtain ⟨_, span⟩ := t
  obtain rfl := h
  exact ⟨span, rfl⟩

/-- The first of the tokens, seen through their kinds. -/
theorem first_append {k : Kind} {ks : List Kind} (h : ts.map Token.kind = k :: ks) :
    (first (ts ++ rest)).kind = k := by
  obtain ⟨t, ts, rfl, rfl, -⟩ := List.map_eq_cons_iff.1 h
  rfl

/-- A token that is accepted is taken. -/
theorem run_accept_cons {t : Token} {k : Kind} (h : t.kind = k) :
    (accept k).run (t :: ts) = .ok (true, ts) := by
  rw [run_accept, first_cons, if_pos h, List.tail_cons]

/-- Nothing is taken if another token comes next. -/
theorem run_accept_of_ne {k : Kind} (h : (first ts).kind ≠ k) :
    (accept k).run ts = .ok (false, ts) := by
  rw [run_accept, if_neg h]

theorem run_expect_cons {t : Token} {k : Kind} (h : t.kind = k) :
    (expect k).run (t :: ts) = .ok ((), ts) := by
  rw [run_expect, first_cons, if_pos h, List.tail_cons]

/-- A token that is expected must be there. -/
theorem run_expect_of_ne {k : Kind} (h : (first ts).kind ≠ k) :
    ∃ e, (expect k).run ts = .error e := by
  rw [run_expect, if_neg h]
  exact ⟨_, rfl⟩

/-- A sequence that returns does so after its first part has returned. -/
theorem exists_run_of_bind {f : α → Parser β} {b : β} (h : (p >>= f).run ts = .ok (b, rest)) :
    ∃ a ts', p.run ts = .ok (a, ts') ∧ (f a).run ts' = .ok (b, rest) := by
  obtain ⟨⟨a, ts'⟩, hp, hf⟩ := exists_of_bind_eq_ok h
  exact ⟨a, ts', hp, hf⟩

/-- What was taken where a token was expected. -/
theorem exists_cons_of_expect {k : Kind} {u : Unit} (hk : k ≠ .eof)
    (h : (expect k).run ts = .ok (u, rest)) : ∃ t, ts = t :: rest ∧ t.kind = k := by
  rw [run_expect] at h
  split at h
  next hfirst =>
    cases ts with
    | nil => exact absurd hfirst.symm hk
    | cons t ts =>
      obtain ⟨-, rfl⟩ := Prod.mk.inj (Except.ok.inj h)
      exact ⟨t, rfl, hfirst⟩
  next => cases h

/-- What was taken where an identifier was expected. -/
theorem exists_cons_of_ident {name : String} (h : ident.run ts = .ok (name, rest)) :
    ∃ t, ts = t :: rest ∧ t.kind = .ident name := by
  cases ts with
  | nil => cases h
  | cons t ts =>
    rw [ident, StateT.run_bind, run_peek, ok_bind, first_cons] at h
    split at h
    next n hn =>
      obtain ⟨rfl, rfl⟩ := Prod.mk.inj (Except.ok.inj h)
      exact ⟨t, rfl, hn⟩
    next => cases h

/-! ### Stretches -/

/-- **The parser takes exactly tokens of these kinds**, wherever the next token is one that `follow`
allows, and its answer has the property `post`. -/
def Reads (p : Parser α) (ks : List Kind) (follow : Kind → Prop) (post : α → Prop) : Prop :=
  ∀ ts rest : List Token, ts.map Token.kind = ks → follow (first rest).kind →
    ∃ a, post a ∧ p.run (ts ++ rest) = .ok (a, rest)

/-- The parser fails on tokens that start with these kinds. -/
def Fails (p : Parser α) (ks : List Kind) : Prop :=
  ∀ ts rest : List Token, ts.map Token.kind = ks → ∃ e, p.run (ts ++ rest) = .error e

/-- The parser fails on tokens that start with these kinds, or it stops in front of an ellipsis. -/
def Stuck (p : Parser α) (ks : List Kind) : Prop :=
  ∀ ts rest : List Token, ts.map Token.kind = ks →
    (∃ e, p.run (ts ++ rest) = .error e) ∨
      ∃ a rest', p.run (ts ++ rest) = .ok (a, rest') ∧ (first rest').kind = .ellipsis

/-- A parser that fails is stuck. -/
theorem Fails.stuck (h : Fails p ks) : Stuck p ks := fun ts rest hts ↦ .inl (h ts rest hts)

/-- A failure does not depend on what comes later. -/
theorem Fails.append (h : Fails p ks) (ls : List Kind) : Fails p (ks ++ ls) := by
  intro ts rest hts
  obtain ⟨ts₁, ts₂, rfl, hts₁, -⟩ := List.map_eq_append_iff.1 hts
  rw [List.append_assoc]
  exact h ts₁ (ts₂ ++ rest) hts₁

/-- A sequence fails where its first part does. -/
theorem Fails.bind (h : Fails p ks) (f : α → Parser β) : Fails (p >>= f) ks := by
  intro ts rest hts
  obtain ⟨e, he⟩ := h ts rest hts
  exact ⟨e, by rw [StateT.run_bind, he]; rfl⟩

theorem Fails.after_expect (h : Fails p ks) (k : Kind) :
    Fails (do expect k; p) (k :: ks) := by
  intro ts rest hts
  obtain ⟨t, ts, rfl, ht, hts⟩ := List.map_eq_cons_iff.1 hts
  obtain ⟨e, he⟩ := h ts rest hts
  exact ⟨e, by rw [List.cons_append, StateT.run_bind, run_expect_cons ht]; exact he⟩

/-- What may follow can be narrowed, and what is known of the answer can be weakened. -/
theorem Reads.mono {follow follow' : Kind → Prop} {post post' : α → Prop}
    (h : Reads p ks follow post) (hf : ∀ k, follow' k → follow k) (hp : ∀ a, post a → post' a) :
    Reads p ks follow' post' := by
  intro ts rest hts hrest
  obtain ⟨a, ha, hrun⟩ := h ts rest hts (hf _ hrest)
  exact ⟨a, hp a ha, hrun⟩

/-- A parser that fails or stops in front of an ellipsis leads to a failure if what comes after it
fails on an ellipsis. -/
theorem Stuck.bind_fails {f : α → Parser β} (h : Stuck p ks)
    (hf : ∀ a ts, (first ts).kind = .ellipsis → ∃ e, (f a).run ts = .error e) :
    Fails (p >>= f) ks := by
  intro ts rest hts
  rcases h ts rest hts with ⟨e, he⟩ | ⟨a, rest', hrun, hfirst⟩
  · exact ⟨e, by rw [StateT.run_bind, he]; rfl⟩
  · obtain ⟨e, he⟩ := hf a rest' hfirst
    exact ⟨e, by rw [StateT.run_bind, hrun]; exact he⟩

/-- A parser that is stuck stays so if its answer is changed. -/
theorem Stuck.run_map (h : Stuck p ks) (hts : ts.map Token.kind = ks) (rest : List Token)
    (f : α → β) :
    (∃ e, (p.run (ts ++ rest) >>= fun r ↦ .ok (f r.1, r.2)) = .error e) ∨
      ∃ b rest', (p.run (ts ++ rest) >>= fun r ↦ .ok (f r.1, r.2)) = .ok (b, rest') ∧
        (first rest').kind = .ellipsis := by
  rcases h ts rest hts with ⟨e, he⟩ | ⟨a, rest', hrun, hfirst⟩
  · exact .inl ⟨e, by rw [he]; rfl⟩
  · exact .inr ⟨f a, rest', by rw [hrun]; rfl, hfirst⟩

/-! ### Going on as another parser -/

/-- Tokens of these kinds start with one that `next` allows, whatever comes after them. -/
def Starts (next : Kind → Prop) (ks : List Kind) : Prop :=
  ∀ ts rest : List Token, ts.map Token.kind = ks → next (first (ts ++ rest)).kind

theorem starts_true : Starts (fun _ ↦ True) ks := fun _ _ _ ↦ trivial

theorem Starts.of_eq {next : Kind → Prop} {k : Kind} {ls : List Kind} (hk : ks = k :: ls)
    (h : next k) : Starts next ks := by
  intro ts rest hts
  rw [first_append (hts.trans hk)]
  exact h

/-- **After tokens of the kinds `front` the parser goes on as another one**, wherever the next token
is one that `next` allows, and makes its answer of the other one's. -/
def Continues (p : Parser β) (front : List Kind) (next : Kind → Prop) (q : Parser α) (f : α → β) :
    Prop :=
  ∀ ts us : List Token, ts.map Token.kind = front → next (first us).kind →
    p.run (ts ++ us) = q.run us >>= fun r ↦ .ok (f r.1, r.2)

namespace Continues

variable {p : Parser β} {front ks : List Kind} {next : Kind → Prop} {q : Parser α} {f : α → β}

/-- What the other parser takes, the parser takes with the tokens in front of it. -/
theorem reads {follow : Kind → Prop} {a : α} (h : Continues p front next q f)
    (hstart : Starts next ks) (hq : Reads q ks follow (· = a)) :
    Reads p (front ++ ks) follow (· = f a) := by
  intro ts rest hts hrest
  obtain ⟨ts₁, ts₂, rfl, hts₁, hts₂⟩ := List.map_eq_append_iff.1 hts
  obtain ⟨_, rfl, hrun⟩ := hq ts₂ rest hts₂ hrest
  refine ⟨_, rfl, ?_⟩
  rw [List.append_assoc, h ts₁ (ts₂ ++ rest) hts₁ (hstart ts₂ rest hts₂), hrun]
  rfl

/-- Where the other parser fails, the parser fails too. -/
theorem fails (h : Continues p front next q f) (hstart : Starts next ks) (hq : Fails q ks) :
    Fails p (front ++ ks) := by
  intro ts rest hts
  obtain ⟨ts₁, ts₂, rfl, hts₁, hts₂⟩ := List.map_eq_append_iff.1 hts
  obtain ⟨e, he⟩ := hq ts₂ rest hts₂
  refine ⟨e, ?_⟩
  rw [List.append_assoc, h ts₁ (ts₂ ++ rest) hts₁ (hstart ts₂ rest hts₂), he]
  rfl

/-- Where the other parser is stuck, the parser is stuck too. -/
theorem stuck (h : Continues p front next q f) (hstart : Starts next ks) (hq : Stuck q ks) :
    Stuck p (front ++ ks) := by
  intro ts rest hts
  obtain ⟨ts₁, ts₂, rfl, hts₁, hts₂⟩ := List.map_eq_append_iff.1 hts
  rw [List.append_assoc, h ts₁ (ts₂ ++ rest) hts₁ (hstart ts₂ rest hts₂)]
  exact hq.run_map hts₂ rest f

end Continues

/-! ### Repetition -/

theorem run_roundsWithin_stop {round : Parser (Round α)} (h : round.run ts = .ok (.stop, rest))
    (budget : Nat) : (roundsWithin round (budget + 1)).run ts = .ok ([], rest) := by
  simp [roundsWithin, h]

theorem run_roundsWithin_last {round : Parser (Round α)} {a : α}
    (h : round.run ts = .ok (.last a, rest)) (budget : Nat) :
    (roundsWithin round (budget + 1)).run ts = .ok ([a], rest) := by
  simp [roundsWithin, h]

theorem run_roundsWithin_more {round : Parser (Round α)} {a : α}
    (h : round.run ts = .ok (.more a, rest)) (budget : Nat) :
    (roundsWithin round (budget + 1)).run ts =
      (roundsWithin round budget).run rest >>= fun r ↦ .ok (a :: r.1, r.2) := by
  simp only [roundsWithin, StateT.run_bind, h, ok_bind]
  rfl

theorem run_roundsWithin_error {round : Parser (Round α)} {e : ParseError}
    (h : round.run ts = .error e) (budget : Nat) :
    (roundsWithin round (budget + 1)).run ts = .error e := by
  simp [roundsWithin, h]

/-- The number of rounds is bounded by the number of tokens. -/
theorem run_rounds (round : Parser (Round α)) (ts : List Token) :
    (rounds round).run ts = (roundsWithin round (ts.length + 1)).run ts := rfl

/-- **A repetition takes stretch after stretch**, and stops in front of a token that starts none. -/
theorem reads_rounds {round : Parser (Round α)} {xs : List α} {ks : α → List Kind}
    {follow : Kind → Prop} (hmore : ∀ x ∈ xs, Reads round (ks x) (fun _ ↦ True) (· = .more x))
    (hne : ∀ x ∈ xs, ks x ≠ [])
    (hstop : ∀ rest, follow (first rest).kind → round.run rest = .ok (.stop, rest)) :
    Reads (rounds round) (xs.flatMap ks) follow (· = xs) := by
  -- each stretch has a token, so the tokens bound the number of rounds
  suffices hmain : ∀ budget (ts rest : List Token), ts.map Token.kind = xs.flatMap ks →
      follow (first rest).kind → ts.length ≤ budget →
        (roundsWithin round (budget + 1)).run (ts ++ rest) = .ok (xs, rest) by
    intro ts rest hts hrest
    exact ⟨xs, rfl, hmain (ts ++ rest).length ts rest hts hrest (by simp)⟩
  induction xs with
  | nil =>
    intro budget ts rest hts hrest _
    obtain rfl := List.map_eq_nil_iff.1 hts
    exact run_roundsWithin_stop (hstop rest hrest) budget
  | cons x xs ih =>
    intro budget ts rest hts hrest hbudget
    rw [List.flatMap_cons] at hts
    obtain ⟨ts₁, ts₂, rfl, hts₁, hts₂⟩ := List.map_eq_append_iff.1 hts
    have hpos : 0 < ts₁.length := by
      rw [← List.length_map, hts₁]
      exact List.length_pos_iff.2 (hne x (by simp))
    rw [List.length_append] at hbudget
    obtain ⟨budget, rfl⟩ : ∃ b, budget = b + 1 := ⟨budget - 1, by omega⟩
    obtain ⟨_, rfl, hrun⟩ := hmore x (by simp) ts₁ (ts₂ ++ rest) hts₁ trivial
    have hrest' := ih (fun y hy ↦ hmore y (by simp [hy])) (fun y hy ↦ hne y (by simp [hy])) budget
      ts₂ rest hts₂ hrest (by omega)
    rw [List.append_assoc, run_roundsWithin_more hrun, hrest']
    rfl

/-! ### Lists with commas -/

/-- The tokens of items with commas between them, up to the closing parenthesis. -/
def commaKinds (kss : List (List Kind)) : List Kind :=
  [.comma].intercalate kss ++ [.closing .paren]

/-- What comes after an item of such a list: a comma if there are more, and its end if not. -/
def commaTail : List (List Kind) → List Kind
  | [] => [.closing .paren]
  | ks :: kss => .comma :: commaKinds (ks :: kss)

@[simp] theorem commaTail_nil : commaTail [] = [.closing .paren] := rfl

@[simp] theorem commaTail_cons (ks : List Kind) (kss : List (List Kind)) :
    commaTail (ks :: kss) = .comma :: commaKinds (ks :: kss) := rfl

@[simp] theorem commaKinds_nil : commaKinds [] = [.closing .paren] := rfl

@[simp] theorem commaKinds_cons (ks : List Kind) (kss : List (List Kind)) :
    commaKinds (ks :: kss) = ks ++ commaTail kss := by
  cases kss <;> simp [commaKinds, commaTail]

/-- What can follow an item of such a list. -/
def EndsItem (k : Kind) : Prop := k = .comma ∨ k = .closing .paren

/-- An item ends where the tail of its list starts. -/
theorem endsItem_commaTail {kss : List (List Kind)} (h : ts.map Token.kind = commaTail kss) :
    EndsItem (first (ts ++ rest)).kind := by
  cases kss with
  | nil => exact .inr (first_append h)
  | cons ks kss => exact .inl (first_append h)

/-- A token that an item of such a list can start with. -/
def StartsItem (k : Kind) : Prop := k ≠ .newline ∧ k ≠ .closing .paren

/-- What comes after an item of such a list. -/
def commaEnd (x : α) : Parser (Round α) := do
  skipNewlines
  if ← accept .comma then return .more x
  expect (.closing .paren)
  return .last x

/-- One round of such a list. -/
def commaRound (item : Parser α) : Parser (Round α) := do
  skipNewlines
  if ← accept (.closing .paren) then return .stop
  commaEnd (← item)

theorem commaList_eq (item : Parser α) : commaList item = rounds (commaRound item) := rfl

theorem dropWhile_newline {k : Kind} (h : (first ts).kind = k) (hk : k ≠ .newline) :
    ts.dropWhile (fun t ↦ t.kind == .newline) = ts := by
  cases ts with
  | nil => rfl
  | cons t ts =>
    have ht : t.kind ≠ .newline := by
      rw [first_cons] at h
      rw [h]
      exact hk
    rw [List.dropWhile_cons_of_neg (by simpa using ht)]

/-- A round starts with the item, unless the list ends there. -/
theorem run_commaRound {item : Parser α} {k : Kind} (h : (first ts).kind = k) (hk : StartsItem k) :
    (commaRound item).run ts = item.run ts >>= fun r ↦ (commaEnd r.1).run r.2 := by
  have hne : (first ts).kind ≠ .closing .paren := h ▸ hk.2
  simp [commaRound, dropWhile_newline h hk.1, run_accept, if_neg hne]

/-- The round after which another one follows. -/
theorem run_commaRound_more {item : Parser α} {k : Kind} (h : (first ts).kind = k)
    (hk : StartsItem k) {a : α} {t : Token} (hitem : item.run ts = .ok (a, t :: rest))
    (ht : t.kind = .comma) : (commaRound item).run ts = .ok (.more a, rest) := by
  have hdrop : (t :: rest).dropWhile (fun t ↦ t.kind == .newline) = t :: rest :=
    dropWhile_newline (k := .comma) ht (by decide)
  rw [run_commaRound h hk, hitem]
  simp [commaEnd, hdrop, run_accept, ht]

/-- The last round. -/
theorem run_commaRound_last {item : Parser α} {k : Kind} (h : (first ts).kind = k)
    (hk : StartsItem k) {a : α} {t : Token} (hitem : item.run ts = .ok (a, t :: rest))
    (ht : t.kind = .closing .paren) : (commaRound item).run ts = .ok (.last a, rest) := by
  have hdrop : (t :: rest).dropWhile (fun t ↦ t.kind == .newline) = t :: rest :=
    dropWhile_newline (k := .closing .paren) ht (by decide)
  rw [run_commaRound h hk, hitem]
  simp [commaEnd, hdrop, run_accept, run_expect, ht]

/-- A round fails if its item does, and also if the item stops in front of an ellipsis. -/
theorem run_commaRound_error {item : Parser α} {k : Kind} (h : (first ts).kind = k)
    (hk : StartsItem k)
    (hitem : (∃ e, item.run ts = .error e) ∨
      ∃ a rest', item.run ts = .ok (a, rest') ∧ (first rest').kind = .ellipsis) :
    ∃ e, (commaRound item).run ts = .error e := by
  rw [run_commaRound h hk]
  rcases hitem with ⟨e, he⟩ | ⟨a, rest', hrun, hfirst⟩
  · exact ⟨e, by rw [he]; rfl⟩
  · rw [hrun]
    simp [commaEnd, dropWhile_newline hfirst (by decide), run_accept, run_expect, hfirst]

/-- **A list with commas is read item by item.** -/
theorem reads_commaList {item : Parser α} {xs : List ξ} {ks : ξ → List Kind}
    {post : ξ → α → Prop}
    (hitem : ∀ x ∈ xs, Reads item (ks x) EndsItem (post x))
    (hstart : ∀ x ∈ xs, ∃ k ls, ks x = k :: ls ∧ StartsItem k) (follow : Kind → Prop) :
    Reads (commaList item) (commaKinds (xs.map ks)) follow (List.Forall₂ post xs) := by
  -- the rounds take at least one token each, so their number is bounded by that of the tokens
  suffices hmain : ∀ budget (ts rest : List Token), ts.map Token.kind = commaKinds (xs.map ks) →
      ts.length ≤ budget → ∃ as, List.Forall₂ post xs as ∧
        (roundsWithin (commaRound item) (budget + 1)).run (ts ++ rest) = .ok (as, rest) by
    intro ts rest hts _
    rw [commaList_eq, run_rounds]
    exact hmain (ts ++ rest).length ts rest hts (by simp)
  induction xs with
  | nil =>
    intro budget ts rest hts _
    obtain ⟨t, rfl, ht⟩ := List.map_eq_singleton_iff.1 hts
    refine ⟨[], .nil, run_roundsWithin_stop ?_ budget⟩
    have hdrop : (t :: rest).dropWhile (fun t ↦ t.kind == .newline) = t :: rest :=
      dropWhile_newline (k := .closing .paren) ht (by decide)
    simp [commaRound, hdrop, run_accept, ht]
  | cons x xs ih =>
    intro budget ts rest hts hbudget
    obtain ⟨k, ls, hk, hkstart⟩ := hstart x (by simp)
    rw [List.map_cons, commaKinds_cons] at hts
    obtain ⟨ts₁, ts₂, rfl, hts₁, hts₂⟩ := List.map_eq_append_iff.1 hts
    obtain ⟨a, ha, hrun⟩ := hitem x (by simp) ts₁ (ts₂ ++ rest) hts₁ (endsItem_commaTail hts₂)
    have hfirst : (first (ts₁ ++ (ts₂ ++ rest))).kind = k := first_append (hts₁.trans hk)
    rw [List.append_assoc]
    cases xs with
    | nil =>
      obtain ⟨t, rfl, ht⟩ := List.map_eq_singleton_iff.1 hts₂
      exact ⟨[a], .cons ha .nil,
        run_roundsWithin_last (run_commaRound_last hfirst hkstart hrun ht) budget⟩
    | cons y ys =>
      obtain ⟨t, ts₂, rfl, ht, hts₂⟩ := List.map_eq_cons_iff.1 hts₂
      rw [List.length_append, List.length_cons] at hbudget
      obtain ⟨budget, rfl⟩ : ∃ b, budget = b + 1 := ⟨budget - 1, by omega⟩
      obtain ⟨as, has, hrest⟩ := ih (fun z hz ↦ hitem z (by simp [hz]))
        (fun z hz ↦ hstart z (by simp [hz])) budget ts₂ rest hts₂ (by omega)
      refine ⟨a :: as, .cons ha has, ?_⟩
      rw [List.cons_append] at hrun hfirst ⊢
      rw [run_roundsWithin_more (run_commaRound_more hfirst hkstart hrun ht), hrest]
      rfl

/-- **A list with commas cannot be read if one of its items is stuck** and the ones before it are
read. -/
theorem fails_commaList {item : Parser α} {xs : List ξ} {ks : ξ → List Kind}
    (hitem : ∀ x ∈ xs, Reads item (ks x) EndsItem (fun _ ↦ True) ∨ Stuck item (ks x))
    (hstart : ∀ x ∈ xs, ∃ k ls, ks x = k :: ls ∧ StartsItem k)
    (hstuck : ∃ x ∈ xs, Stuck item (ks x)) :
    Fails (commaList item) (commaKinds (xs.map ks)) := by
  suffices hmain : ∀ budget (ts rest : List Token), ts.map Token.kind = commaKinds (xs.map ks) →
      ∃ e, (roundsWithin (commaRound item) budget).run (ts ++ rest) = .error e by
    intro ts rest hts
    exact hmain ((ts ++ rest).length + 1) ts rest hts
  induction xs with
  | nil =>
    obtain ⟨x, hx, -⟩ := hstuck
    simp at hx
  | cons x xs ih =>
    intro budget ts rest hts
    obtain ⟨k, ls, hk, hkstart⟩ := hstart x (by simp)
    rw [List.map_cons, commaKinds_cons] at hts
    obtain ⟨ts₁, ts₂, rfl, hts₁, hts₂⟩ := List.map_eq_append_iff.1 hts
    have hfirst : (first (ts₁ ++ (ts₂ ++ rest))).kind = k := first_append (hts₁.trans hk)
    rw [List.append_assoc]
    cases budget with
    | zero => exact ⟨_, rfl⟩
    | succ budget =>
      by_cases hx : Stuck item (ks x)
      · obtain ⟨e, he⟩ := run_commaRound_error hfirst hkstart (hx ts₁ (ts₂ ++ rest) hts₁)
        exact ⟨e, run_roundsWithin_error he budget⟩
      · -- the item is read, so it is a later one that is stuck
        have hlater : ∃ y ∈ xs, Stuck item (ks y) := by
          obtain ⟨y, hy, hystuck⟩ := hstuck
          rcases List.mem_cons.1 hy with rfl | hy
          · exact absurd hystuck hx
          · exact ⟨y, hy, hystuck⟩
        obtain ⟨a, -, hrun⟩ := (hitem x (by simp)).resolve_right hx ts₁ (ts₂ ++ rest) hts₁
          (endsItem_commaTail hts₂)
        cases xs with
        | nil => simp at hlater
        | cons y ys =>
          obtain ⟨t, ts₂, rfl, ht, hts₂⟩ := List.map_eq_cons_iff.1 hts₂
          obtain ⟨e, he⟩ := ih (fun z hz ↦ hitem z (by simp [hz]))
            (fun z hz ↦ hstart z (by simp [hz])) hlater budget ts₂ rest hts₂
          refine ⟨e, ?_⟩
          rw [List.cons_append] at hrun hfirst ⊢
          rw [run_roundsWithin_more (run_commaRound_more hfirst hkstart hrun ht), he]
          rfl

end Parser

end GoDecorator
