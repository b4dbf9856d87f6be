import GoDecorator.Proofs.Decl.Interfaces
import GoDecorator.Proofs.Parser.Progress

/-!
# Progress and failure of the parser for files

**Each of the parsers for types, expressions and declarations takes a token or fails at a place of
the source** (`proceeds_shape`, `proceeds_expr`, `proceeds_topLevel`), and so does the parser for
files (`proceeds_file`). Two things follow from it for every source: the parser never runs out of a
budget, and a message never points anywhere but at a token.

## Budgets

The budget of the parser for types is the number of tokens that are left. Each step into a type
takes a token first, so that the budget of the inner types is again as large as the number of tokens
(`advances_shapeWithin`), and the same goes for expressions (`advances_exprWithin`). These are the
two inductions of this module, and both are on the budget; all other statements are about one step
of a parser.

A repetition proceeds because its rounds do. What is said of a round is how many tokens it takes
(`Round.takes`), which is one where another round follows. Some loops are written out in the parser;
for them there is a definition of one round (`selectorRound`, `nameRound`, `specRound`) and an
equation that takes the loop to `rounds`.

## Errors without a place

A list of parameters is resolved after it was read, and the entries remember the place of a name
that stands alone but not that of a type. This is why the error for a type without a name has no
place, and the only reason for an error to have none (`placedIn_of_resolveParams`). A body in braces
is refused for its opening brace or for one of its tokens (`span_of_bodyLines_error`).
-/

namespace GoDecorator

open Token (Kind)

/-! ### Parameter lists -/

/-- The place of an identifier that stands alone is that of a token. -/
def ParamEntry.StandsIn (source : List Token) : ParamEntry → Prop
  | lone _ span => ∃ t ∈ source, span = t.span
  | _ => True

/-- An entry is refused if it has a name without a type to its right, or a type without a name. -/
theorem prepend_error {entry : ParamEntry} {ps : List Param} {e : ParseError}
    (h : entry.prepend ps = .error e) :
    (∃ n span, entry = .lone n span ∧ e = .expectedType (.text n) span) ∨
      ∃ s v, entry = .bare s v ∧ e = .expectedIdent (.shape s) .unknown := by
  cases entry with
  | named => cases h
  | bare s v => exact .inr ⟨s, v, rfl, (Except.error.inj h).symm⟩
  | lone n span =>
    cases ps with
    | nil => exact .inl ⟨n, span, rfl, (Except.error.inj h).symm⟩
    | cons => cases h

/-- A list with names is refused for a name without a type, or for a type without a name. -/
theorem resolveNamed_error {es : List ParamEntry} {e : ParseError}
    (h : resolveNamed es = .error e) :
    (∃ n span, .lone n span ∈ es ∧ e = .expectedType (.text n) span) ∨
      ∃ s v, .bare s v ∈ es ∧ e = .expectedIdent (.shape s) .unknown := by
  induction es with
  | nil => cases h
  | cons entry es ih =>
    rw [resolveNamed] at h
    cases hes : resolveNamed es with
    | error e' =>
      rw [hes] at h
      obtain rfl := Except.error.inj h
      rcases ih hes with ⟨n, span, hmem, rfl⟩ | ⟨s, v, hmem, rfl⟩
      · exact .inl ⟨n, span, List.mem_cons_of_mem _ hmem, rfl⟩
      · exact .inr ⟨s, v, List.mem_cons_of_mem _ hmem, rfl⟩
    | ok ps =>
      rw [hes, ok_bind] at h
      rcases prepend_error h with ⟨n, span, rfl, rfl⟩ | ⟨s, v, rfl, rfl⟩
      · exact .inl ⟨n, span, List.mem_cons_self, rfl⟩
      · exact .inr ⟨s, v, List.mem_cons_self, rfl⟩

namespace Parser

variable {source ts : List Token} {n : Nat}

/-- **The error of a list that cannot be resolved.** -/
theorem placedIn_of_resolveParams {es : List ParamEntry} {rest : List Token} {e : ParseError}
    (hts : ts <:+ source) (hlist : ListAt EntryAt ts es rest) (hes : ∀ x ∈ es, x.StandsIn source)
    (h : resolveParams es = .error e) : e.PlacedIn source := by
  have hresolve := h
  unfold resolveParams at h
  split at h
  next hnamed =>
    rcases resolveNamed_error h with ⟨n, span, hmem, rfl⟩ | ⟨s, v, hmem, rfl⟩
    · obtain ⟨t, ht, rfl⟩ := hes _ hmem
      exact .token ht rfl rfl
    · exact .nowhere ⟨ts, es, rest, s, v, hts, hlist, hnamed, hmem, hresolve, rfl⟩
  next => cases h

section Inner

variable {inner : Parser Shape} (h : Advances source n inner)
include h

/-- An entry of a parameter list takes a token, and keeps the place of one if it is a lone name. -/
theorem proceeds_paramEntry {m : Nat} (hmn : m ≤ n) (hts : Ahead source m ts) :
    Proceeds source (paramEntry inner) ts fun e rest ↦
      e.StandsIn source ∧ Ahead source (m - 1) rest := by
  refine (proceeds_optional hts (by decide)).bind fun variadic us hus ↦ .peek (.secondKind? ?_)
  split
  next =>
    exact (h m us hmn hus).bind fun s rest hrest ↦ proceeds_pure ⟨trivial, hrest⟩
  next name hname _ =>
    have hne : (first us).kind ≠ .eof := by simp [hname]
    refine (proceeds_skip hus hne).bind fun _ vs hvs ↦ .kind ?_
    have hlone : Proceeds source (pure (ParamEntry.lone name (first us).span)) vs fun e rest ↦
        e.StandsIn source ∧ Ahead source (m - 1) rest :=
      proceeds_pure ⟨⟨_, hus.first_mem, rfl⟩, hvs⟩
    split
    · exact hlone
    · exact hlone
    · exact hlone
    · refine (proceeds_optional hvs (by decide)).bind fun _ ws hws ↦ ?_
      exact (h (m - 1) ws (by omega) hws).bind fun s rest hrest ↦
        proceeds_pure ⟨trivial, hrest.mono (Nat.sub_le _ _)⟩
  next =>
    exact (h m us hmn hus).bind fun s rest hrest ↦ proceeds_pure ⟨trivial, hrest⟩

variable (hinner : ∀ ts s rest, inner.run ts = .ok (s, rest) → TypeAt ts s rest)
include hinner

/-- A parameter list takes a token, also if it cannot be resolved. -/
theorem advances_paramList : Advances source n (paramList inner) := by
  intro m ts hmn hts
  have hentries := proceeds_commaList
    (fun k us hkm hus ↦ proceeds_paramEntry h (hkm.trans hmn) hus) hts
  refine hentries.with_run.bind fun es rest hes ↦ ?_
  obtain ⟨hrun, hstand, hrest⟩ := hes
  have hlist := listAt_of_commaList (fun _ _ _ ↦ entryAt_of_paramEntry hinner) hrun
  exact proceeds_lift (fun _ _ ↦ hrest) fun e he ↦
    placedIn_of_resolveParams hts.suffix hlist hstand he

/-- A signature takes a token: the parenthesis of its parameters. -/
theorem advances_signatureOf : Advances source n (signatureOf inner) := by
  intro m ts hmn hts
  have hlist := advances_paramList h hinner
  refine (proceeds_expect hts (by decide)).bind fun _ us hus ↦
    (hlist (m - 1) us (by omega) hus).bind fun ps vs hvs ↦ ?_
  refine .accept_ite hvs (by decide) (fun ws hws ↦ ?_) fun _ ↦
    .kind (proceeds_ite (fun _ ↦ ?_) fun _ ↦ ?_)
  · exact (hlist _ ws (by omega) hws).bind fun rs rest hrest ↦ proceeds_pure (hrest.mono (by omega))
  · exact (h _ vs (by omega) hvs).bind fun s rest hrest ↦ proceeds_pure (hrest.mono (by omega))
  · exact proceeds_pure (hvs.mono (by omega))

end Inner

/-! ### Types -/

/-- Braces with something between them are refused at the given place. -/
theorem proceeds_emptyBraces (h : Ahead source n ts) (what : Unsupported) {span : Span}
    (hspan : ∃ t ∈ source, span = t.span) :
    Proceeds source (emptyBraces what span) ts fun _ ↦ Ahead source n := by
  obtain ⟨t, ht, rfl⟩ := hspan
  refine (proceeds_expect h (by decide)).bind fun _ us hus ↦
    (proceeds_skipNewlines hus).bind fun _ vs hvs ↦ .accept_ite hvs (by decide)
      (fun rest hrest ↦ proceeds_pure (hrest.mono (by omega))) fun _ ↦ ?_
  exact proceeds_throw (.token ht rfl rfl)

/-- A name of a type is refused, if at all, at a place that was seen. -/
theorem proceeds_namedShape (h : Ahead source n ts) (name : String) {span : Span}
    (hspan : ∃ t ∈ source, span = t.span) :
    Proceeds source (namedShape name span) ts fun _ ↦ Ahead source n := by
  obtain ⟨t, ht, rfl⟩ := hspan
  have hrest : ∀ (s : Shape) (us : List Token), Ahead source n us → Proceeds source (do
      if ← isNext (.opening .square) then throw (.unsupportedType .genericInstantiation t.span)
      return s) us fun _ ↦ Ahead source n := by
    refine fun s us hus ↦ .isNext (proceeds_ite (fun _ ↦ ?_) fun _ ↦ proceeds_pure hus)
    exact proceeds_throw_bind (.token ht rfl rfl)
  refine .accept_ite h (by decide) (fun us hus ↦ ?_) fun _ ↦ ?_
  · refine ((proceeds_ident hus).map fun _ rest hrest ↦ hrest).bind fun s vs hvs ↦ ?_
    exact hrest s vs (hvs.mono (by omega))
  · exact (@proceeds_pure _ _ _ (fun _ ↦ Ahead source n) _ h).bind hrest

/-- **The budget for nested types is enough.** -/
theorem advances_shapeWithin (budget : Nat) : Advances source budget (shapeWithin budget) := by
  induction budget with
  | zero =>
    intro m ts hm hts
    exact absurd hts.pos (by omega)
  | succ budget ih =>
    intro m ts hm hts
    have hspan : ∃ t ∈ source, (first ts).span = t.span := ⟨_, hts.first_mem, rfl⟩
    have hinner : ∀ us, Ahead source (m - 1) us →
        Proceeds source (shapeWithin budget) us fun _ ↦ Ahead source (m - 1) := fun us hus ↦
      (ih (m - 1) us (by omega) hus).mono fun _ rest hrest ↦ hrest.mono (Nat.sub_le _ _)
    have hskip : ∀ {k : Kind}, (first ts).kind = k → k ≠ .eof →
        Proceeds source skip ts fun _ ↦ Ahead source (m - 1) :=
      fun hk hne ↦ proceeds_skip hts (hk ▸ hne)
    refine .peek ?_
    split
    next hk =>
      -- a pointer
      refine (hskip hk (by simp)).bind fun _ us hus ↦ ?_
      exact (hinner us hus).bind fun s rest hrest ↦ proceeds_pure hrest
    next hk =>
      -- a slice
      refine (hskip hk (by simp)).bind fun _ us hus ↦ .accept_ite hus (by decide)
        (fun vs hvs ↦ ?_) fun _ ↦ proceeds_throw_bind (.token hts.first_mem rfl rfl)
      exact (hinner vs (hvs.mono (by omega))).bind fun s rest hrest ↦ proceeds_pure hrest
    next hk =>
      -- a map
      refine (hskip hk (by simp)).bind fun _ us hus ↦
        (proceeds_expect hus (by decide)).bind fun _ vs hvs ↦
          (hinner vs (hvs.mono (by omega))).bind fun _ ws hws ↦
            (proceeds_expect hws (by decide)).bind fun _ xs hxs ↦ ?_
      exact (hinner xs (hxs.mono (by omega))).bind fun s rest hrest ↦ proceeds_pure hrest
    next hk =>
      -- a channel
      refine (hskip hk (by simp)).bind fun _ us hus ↦
        (proceeds_optional hus (by decide)).bind fun _ vs hvs ↦ ?_
      exact (hinner vs hvs).bind fun s rest hrest ↦ proceeds_pure hrest
    next hk =>
      -- a receive-only channel
      refine (hskip hk (by simp)).bind fun _ us hus ↦
        (proceeds_expect hus (by decide)).bind fun _ vs hvs ↦ ?_
      exact (hinner vs (hvs.mono (by omega))).bind fun s rest hrest ↦ proceeds_pure hrest
    next hk =>
      -- a function type
      refine (hskip hk (by simp)).bind fun _ us hus ↦ ?_
      refine (advances_signatureOf ih (fun _ _ _ hrun ↦ ⟨budget, hrun⟩) (m - 1) us (by omega)
        hus).bind fun sig rest hrest ↦ proceeds_pure (hrest.mono (by omega))
    next hk =>
      -- the empty interface
      exact (hskip hk (by simp)).bind fun _ us hus ↦
        (proceeds_emptyBraces hus _ hspan).bind fun _ rest hrest ↦ proceeds_pure hrest
    next hk =>
      -- the empty struct
      exact (hskip hk (by simp)).bind fun _ us hus ↦
        (proceeds_emptyBraces hus _ hspan).bind fun _ rest hrest ↦ proceeds_pure hrest
    next hk =>
      -- a type in parentheses
      refine (hskip hk (by simp)).bind fun _ us hus ↦
        (proceeds_skipNewlines hus).bind fun _ vs hvs ↦ (hinner vs hvs).bind fun s ws hws ↦
          (proceeds_skipNewlines hws).bind fun _ xs hxs ↦ ?_
      exact (proceeds_expect hxs (by decide)).bind fun _ rest hrest ↦
        proceeds_pure (hrest.mono (by omega))
    next hk =>
      -- a name
      exact (hskip hk (by simp)).bind fun _ us hus ↦ proceeds_namedShape hus _ hspan
    next => exact proceeds_throw (.token hts.first_mem rfl rfl)

/-- **A type takes a token.** -/
theorem proceeds_shape (h : Ahead source n ts) :
    Proceeds source shape ts fun _ ↦ Ahead source (n - 1) :=
  proceeds_of_budget advances_shapeWithin h

theorem advances_shape : Advances source n shape := fun _ _ _ hts ↦ proceeds_shape hts

theorem proceeds_shapeParams (h : Ahead source n ts) :
    Proceeds source (paramList shape) ts fun _ ↦ Ahead source (n - 1) :=
  advances_paramList advances_shape (fun _ _ _ ↦ typeAt_of_shape) n ts le_rfl h

theorem proceeds_signature (h : Ahead source n ts) :
    Proceeds source signature ts fun _ ↦ Ahead source (n - 1) :=
  advances_signatureOf advances_shape (fun _ _ _ ↦ typeAt_of_shape) n ts le_rfl h

/-! ### Expressions -/

theorem kind_first_tail {k : Kind} (h : ts[1]?.map Token.kind = some k) :
    (first ts.tail).kind = k := by
  match ts, h with
  | _ :: _ :: _, h => exact Option.some.inj h

/-- One round of the parser for selectors. -/
def selectorRound : Parser (Round String) := do
  match ← kind, ← secondKind? with
  | .dot, some (.ident name) =>
    skip
    skip
    return .more name
  | _, _ => return .stop

theorem selectors_eq : selectors = rounds selectorRound := rfl

/-- A selector takes two tokens, or the loop ends. -/
theorem proceeds_selectorRound (h : Ahead source n ts) :
    Proceeds source selectorRound ts fun r ↦ Ahead source (n - r.takes 0) := by
  refine .kind (.secondKind? ?_)
  split
  next name hdot hsecond =>
    have hfirst := h.tail (by simp [hdot])
    have hboth := hfirst.tail (by simp [kind_first_tail hsecond])
    exact .skip (.skip (proceeds_pure (hboth.mono (Nat.sub_le _ _))))
  next => exact proceeds_pure h

theorem proceeds_selectors (h : Ahead source n ts) :
    Proceeds source selectors ts fun _ ↦ Ahead source n := by
  rw [selectors_eq]
  exact proceeds_loop (Nat.zero_le 1) (fun _ _ _ hus ↦ proceeds_selectorRound hus) h

/-- What comes after the first name of an expression takes no token, or some. -/
theorem proceeds_pathOrComposite (h : Ahead source n ts) (name : String) {span : Span}
    (hspan : ∃ t ∈ source, span = t.span) :
    Proceeds source (pathOrComposite name span) ts fun _ ↦ Ahead source n := by
  obtain ⟨t, ht, rfl⟩ := hspan
  refine (proceeds_selectors h).bind fun names us hus ↦ .accept_ite hus (by decide)
    (fun vs hvs ↦ ?_) fun _ ↦ proceeds_pure hus
  refine (proceeds_expect hvs (by decide)).bind fun _ rest hrest ↦ ?_
  have hleft : Ahead source n rest := hrest.mono (by omega)
  split
  · exact proceeds_pure hleft
  · exact proceeds_pure hleft
  · exact proceeds_throw (.token ht rfl rfl)

section Inner

variable {inner : Parser Expr} (h : Advances source n inner)
include h

theorem advances_argument : Advances source n (argument inner) := by
  intro m ts hmn hts
  exact (h m ts hmn hts).bind fun e us hus ↦ .accept_ite hus (by decide)
    (fun rest hrest ↦ proceeds_pure (hrest.mono (by omega))) fun _ ↦ proceeds_pure hus

/-- A list of arguments takes a token, or the loop ends. -/
theorem proceeds_callRound {m : Nat} (hmn : m ≤ n) (hts : Ahead source m ts) :
    Proceeds source (callRound inner) ts fun r ↦ Ahead source (m - r.takes 0) := by
  refine .accept_ite hts (by decide) (fun us hus ↦ ?_) fun _ ↦ proceeds_pure hts
  have hargs := @proceeds_commaList _ _ _ _ _ (fun _ ↦ True) (fun k vs hk hvs ↦
    (advances_argument h k vs (by omega) hvs).mono fun _ _ hrest ↦ ⟨trivial, hrest⟩) hus
  exact hargs.bind fun _ rest hrest ↦ proceeds_pure (hrest.2.mono (Nat.sub_le _ _))

theorem proceeds_argumentLists {m : Nat} (hmn : m ≤ n) (hts : Ahead source m ts) :
    Proceeds source (argumentLists inner) ts fun _ ↦ Ahead source m := by
  rw [argumentLists_eq]
  exact proceeds_loop (Nat.zero_le 1) (fun _ _ hkm hus ↦ proceeds_callRound h (hkm.trans hmn) hus)
    hts

end Inner

/-- An operand takes a token. The parser for what stands inside it needs a budget that is smaller by
one. -/
theorem advances_primary {inner : Parser Expr} (h : Advances source (n - 1) inner) :
    Advances source n (primary inner) := by
  intro m ts hmn hts
  have hskip : ∀ {k : Kind}, (first ts).kind = k → k ≠ .eof →
      Proceeds source skip ts fun _ ↦ Ahead source (m - 1) :=
    fun hk hne ↦ proceeds_skip hts (hk ▸ hne)
  have hliteral : ∀ {k : Kind} {text : String}, (first ts).kind = k → k ≠ .eof →
      Proceeds source (do skip; return Expr.literal text) ts fun _ ↦ Ahead source (m - 1) :=
    fun hk hne ↦ (hskip hk hne).bind fun _ rest hrest ↦ proceeds_pure hrest
  have hcomposite : Proceeds source (do
      let s ← shape
      expect (.opening .brace)
      expect (.closing .brace)
      return Expr.composite s) ts fun _ ↦ Ahead source (m - 1) := by
    refine (proceeds_shape hts).bind fun s us hus ↦
      (proceeds_expect hus (by decide)).bind fun _ vs hvs ↦ ?_
    exact (proceeds_expect hvs (by decide)).bind fun _ rest hrest ↦
      proceeds_pure (hrest.mono (by omega))
  refine .peek ?_
  split
  next hk => exact hliteral hk (by simp)
  next hk => exact hliteral hk (by simp)
  next hk => exact hliteral hk (by simp)
  next hk => exact hliteral hk (by simp)
  next => exact hcomposite
  next => exact hcomposite
  next => exact hcomposite
  next hk =>
    exact (hskip hk (by simp)).bind fun _ us hus ↦
      proceeds_pathOrComposite hus _ ⟨_, hts.first_mem, rfl⟩
  next hk =>
    refine (hskip hk (by simp)).bind fun _ us hus ↦ (h _ us (by omega) hus).bind fun e vs hvs ↦ ?_
    exact (proceeds_expect hvs (by decide)).bind fun _ rest hrest ↦
      proceeds_pure (hrest.mono (by omega))
  next => exact proceeds_unexpected hts _

/-- The end of the source is no operator. -/
theorem ne_eof_of_ofKind? {k : Kind} {op : UnaryOp} (h : UnaryOp.ofKind? k = some op) :
    k ≠ .eof := by
  rintro rfl
  cases h

/-- **The budget for nested expressions is enough.** -/
theorem advances_exprWithin (budget : Nat) : Advances source budget (exprWithin budget) := by
  induction budget with
  | zero =>
    intro m ts hm hts
    exact absurd hts.pos (by omega)
  | succ budget ih =>
    intro m ts hm hts
    refine .kind ?_
    split
    next op hop =>
      refine (proceeds_skip hts (ne_eof_of_ofKind? hop)).bind fun _ us hus ↦ ?_
      exact (ih _ us (by omega) hus).bind fun e rest hrest ↦ proceeds_pure (hrest.mono (by omega))
    next =>
      -- an argument comes after a parenthesis, so the primary expression leaves enough
      refine (advances_primary ih m ts hm hts).bind fun e us hus ↦ ?_
      exact (proceeds_argumentLists ih (by omega) hus).bind fun _ rest hrest ↦ proceeds_pure hrest

/-- **An expression takes a token.** -/
theorem proceeds_expr (h : Ahead source n ts) :
    Proceeds source expr ts fun _ ↦ Ahead source (n - 1) :=
  proceeds_of_budget advances_exprWithin h

/-! ### Function bodies -/

/-- **Why a body is refused**: for where it starts, or for a token of it. -/
theorem span_of_bodyLines_error {opening : Span} {previous : Option Span} {depth : Nat}
    {e : ParseError} (h : bodyLines opening previous depth ts = .error e) :
    ∃ span, e = .unbalancedBlock span ∧ (span = opening ∨ ∃ t ∈ ts, span = t.span) := by
  induction ts generalizing previous depth with
  | nil => exact ⟨opening, (Except.error.inj h).symm, .inl rfl⟩
  | cons t ts ih =>
    have hrest : ∀ {previous depth}, bodyLines opening previous depth ts = .error e →
        ∃ span, e = .unbalancedBlock span ∧ (span = opening ∨ ∃ u ∈ t :: ts, span = u.span) := by
      intro previous depth h
      obtain ⟨span, rfl, hspan | ⟨u, hu, hspan⟩⟩ := ih h
      · exact ⟨span, rfl, .inl hspan⟩
      · exact ⟨span, rfl, .inr ⟨u, List.mem_cons_of_mem _ hu, hspan⟩⟩
    rw [bodyLines] at h
    dsimp only at h
    split at h
    next => exact ⟨opening, (Except.error.inj h).symm, .inl rfl⟩
    next => exact hrest (eq_error_of_bind_ok h)
    next =>
      split at h
      next =>
        split at h
        · cases h
        · exact ⟨t.span, (Except.error.inj h).symm, .inr ⟨t, List.mem_cons_self, rfl⟩⟩
      next => exact hrest (eq_error_of_bind_ok h)
    next => exact hrest (eq_error_of_bind_ok h)
    next => exact hrest (eq_error_of_bind_ok h)

/-- The closing brace of a body is not the end of the source. -/
theorem isComplete_of_bodyLines {opening : Span} {previous : Option Span} {depth : Nat}
    {line : Line} {lines : List Line} {rest : List Token} (hts : IsComplete ts)
    (h : bodyLines opening previous depth ts = .ok (line, lines, rest)) :
    IsComplete rest ∧ rest.length < ts.length := by
  induction ts generalizing previous depth line lines with
  | nil => cases h
  | cons t ts ih =>
    have htail (hne : t.kind ≠ .eof) : IsComplete ts := hts.tail hne
    rcases bodyLines_cases h with ⟨hkind, -, l, ls, -, hrest⟩ | ⟨hkind, -, -, -, rfl⟩ |
      ⟨depth', line', -, hne, -, -, hrest⟩
    · obtain ⟨hcomplete, hlt⟩ := ih (htail (by simp [hkind])) hrest
      exact ⟨hcomplete, Nat.lt_succ_of_lt hlt⟩
    · exact ⟨htail (by simp [hkind]), Nat.lt_succ_self _⟩
    · obtain ⟨hcomplete, hlt⟩ := ih (htail hne) hrest
      exact ⟨hcomplete, Nat.lt_succ_of_lt hlt⟩

/-- A body takes a token: its opening brace. -/
theorem proceeds_block (h : Ahead source n ts) :
    Proceeds source block ts fun _ ↦ Ahead source (n - 1) := by
  refine .here ((proceeds_expect h (by decide)).bind fun _ us hus ↦ .get ?_)
  refine (@proceeds_lift _ _ _ (fun r _ ↦ Ahead source (n - 1) r.2.2) _ (fun r hr ↦ ?_)
    fun e he ↦ ?_).bind fun r vs hr ↦ .set (proceeds_pure hr)
  · obtain ⟨hcomplete, hlt⟩ := isComplete_of_bodyLines hus.complete hr
    exact ⟨(suffix_of_bodyLines hr).trans hus.suffix, hcomplete, hlt.le.trans hus.length_le⟩
  · obtain ⟨span, rfl, rfl | ⟨t, ht, rfl⟩⟩ := span_of_bodyLines_error he
    · exact .token h.first_mem rfl rfl
    · exact .token (hus.suffix.subset ht) rfl rfl

/-! ### Declarations -/

/-- A member of an interface takes a token. -/
theorem proceeds_member (h : Ahead source n ts) :
    Proceeds source member ts fun _ ↦ Ahead source (n - 1) := by
  refine (proceeds_ident h).bind fun name us hus ↦ .isNext (proceeds_ite (fun _ ↦ ?_) fun _ ↦ ?_)
  · exact (proceeds_signature hus).bind fun sig rest hrest ↦
      proceeds_pure (hrest.mono (by omega))
  · refine .accept_ite hus (by decide) (fun vs hvs ↦ ?_) fun _ ↦ proceeds_pure hus
    exact (proceeds_ident hvs).bind fun _ rest hrest ↦ proceeds_pure (hrest.mono (by omega))

/-- A round takes a member and what separates it from the next one, or the closing brace. -/
theorem proceeds_memberRound (h : Ahead source n ts) :
    Proceeds source memberRound ts fun r ↦ Ahead source (n - r.takes 1) := by
  refine (proceeds_skipSeparators h).bind fun _ us hus ↦ .accept_ite hus (by decide)
    (fun rest hrest ↦ proceeds_pure hrest) fun _ ↦
      .here (.isNext (proceeds_ite (fun _ ↦ ?_) fun _ ↦ ?_))
  · exact proceeds_throw_bind (.token hus.first_mem rfl rfl)
  · refine (proceeds_member hus).bind fun m vs hvs ↦
      .atSeparator (.isNext (proceeds_ite (fun _ ↦ proceeds_pure hvs) fun _ ↦ ?_))
    exact proceeds_throw_bind (.token hus.first_mem rfl rfl)

theorem proceeds_interfaceBody (h : Ahead source n ts) :
    Proceeds source interfaceBody ts fun _ ↦ Ahead source (n - 1) := by
  rw [interfaceBody_eq]
  exact (proceeds_loop le_rfl (fun _ _ _ hus ↦ proceeds_memberRound hus) h).map
    fun _ rest hrest ↦ hrest

/-- One round of the parser for further names. -/
def nameRound : Parser (Round String) := do
  if ← accept .comma then return .more (← ident) else return .stop

theorem moreNames_eq : moreNames = rounds nameRound := rfl

/-- A further name takes the comma in front of it. -/
theorem proceeds_nameRound (h : Ahead source n ts) :
    Proceeds source nameRound ts fun r ↦ Ahead source (n - r.takes 0) := by
  refine .accept_ite h (by decide) (fun us hus ↦ ?_) fun _ ↦ proceeds_pure h
  exact (proceeds_ident hus).bind fun _ rest hrest ↦ proceeds_pure (hrest.mono (Nat.sub_le _ _))

theorem proceeds_moreNames (h : Ahead source n ts) :
    Proceeds source moreNames ts fun _ ↦ Ahead source n := by
  rw [moreNames_eq]
  exact proceeds_loop (Nat.zero_le 1) (fun _ _ _ hus ↦ proceeds_nameRound hus) h

/-- A round takes a field and what separates it from the next one, or the closing brace. -/
theorem proceeds_fieldRound (h : Ahead source n ts) :
    Proceeds source fieldRound ts fun r ↦ Ahead source (n - r.takes 1) := by
  refine (proceeds_skipSeparators h).bind fun _ us hus ↦ .accept_ite hus (by decide)
    (fun rest hrest ↦ proceeds_pure hrest) fun _ ↦
      .here (.isNext (proceeds_ite (fun _ ↦ ?_) fun _ ↦ ?_))
  · exact proceeds_throw_bind (.token hus.first_mem rfl rfl)
  · refine (proceeds_ident hus).bind fun name vs hvs ↦
      (proceeds_moreNames hvs).bind fun names ws hws ↦
        .atSeparator (.isNext (.isNext (proceeds_ite (fun _ ↦ ?_) fun _ ↦ ?_)))
    · exact proceeds_throw_bind (.token hus.first_mem rfl rfl)
    · exact (proceeds_shape hws).bind fun s rest hrest ↦
        proceeds_pure (hrest.mono (Nat.sub_le _ _))

theorem proceeds_structBody (h : Ahead source n ts) :
    Proceeds source structBody ts fun _ ↦ Ahead source (n - 1) := by
  rw [structBody_eq]
  exact (proceeds_loop le_rfl (fun _ _ _ hus ↦ proceeds_fieldRound hus) h).map
    fun _ rest hrest ↦ hrest

theorem proceeds_typeExpr (h : Ahead source n ts) :
    Proceeds source typeExpr ts fun _ ↦ Ahead source (n - 1) := by
  refine .kind ?_
  split
  next hk =>
    refine (proceeds_skip h (by simp [hk])).bind fun _ us hus ↦
      (proceeds_expect hus (by decide)).bind fun _ vs hvs ↦ ?_
    exact (proceeds_interfaceBody hvs).bind fun _ rest hrest ↦
      proceeds_pure (hrest.mono (by omega))
  next hk =>
    refine (proceeds_skip h (by simp [hk])).bind fun _ us hus ↦
      (proceeds_expect hus (by decide)).bind fun _ vs hvs ↦ ?_
    exact (proceeds_structBody hvs).bind fun _ rest hrest ↦
      proceeds_pure (hrest.mono (by omega))
  next => exact (proceeds_shape h).bind fun _ rest hrest ↦ proceeds_pure hrest

theorem proceeds_typeSpec (h : Ahead source n ts) :
    Proceeds source typeSpec ts fun _ ↦ Ahead source (n - 1) := by
  refine (proceeds_ident h).bind fun name us hus ↦ ?_
  have hrest : Proceeds source (do
      let _ ← accept .assign
      return TypeSpec.mk name (← typeExpr)) us fun _ ↦ Ahead source (n - 1) := by
    refine (proceeds_optional hus (by decide)).bind fun _ vs hvs ↦ ?_
    exact (proceeds_typeExpr hvs).bind fun _ rest hrest ↦
      proceeds_pure (hrest.mono (by omega))
  refine .isNext (proceeds_ite (fun _ ↦ ?_) fun _ ↦ hrest)
  refine .secondKind? (proceeds_ite (fun _ ↦ hrest) fun _ ↦ .here ?_)
  exact proceeds_throw_bind (.token hus.first_mem rfl rfl)

/-- One round of the parser for a group of type declarations. -/
def specRound : Parser (Round TypeSpec) := do
  skipSeparators
  if ← accept (.closing .paren) then return .stop
  let spec ← typeSpec
  unless (← atSeparator) || (← isNext (.closing .paren)) do unexpected .endOfTypeSpec
  return .more spec

theorem typeGroup_eq : typeGroup = rounds specRound := rfl

/-- A round takes a type declaration, or the closing parenthesis of the group. -/
theorem proceeds_specRound (h : Ahead source n ts) :
    Proceeds source specRound ts fun r ↦ Ahead source (n - r.takes 1) := by
  refine (proceeds_skipSeparators h).bind fun _ us hus ↦ .accept_ite hus (by decide)
    (fun rest hrest ↦ proceeds_pure hrest) fun _ ↦ ?_
  refine (proceeds_typeSpec hus).bind fun spec vs hvs ↦
    .atSeparator (.isNext (proceeds_ite (fun _ ↦ proceeds_pure hvs) fun _ ↦ ?_))
  exact (@proceeds_unexpected _ _ _ _ (fun _ _ ↦ False) hvs _).bind fun _ _ hfalse ↦ hfalse.elim

theorem proceeds_typeGroup (h : Ahead source n ts) :
    Proceeds source typeGroup ts fun _ ↦ Ahead source (n - 1) := by
  rw [typeGroup_eq]
  exact proceeds_loop le_rfl (fun _ _ _ hus ↦ proceeds_specRound hus) h

theorem proceeds_typeDecl (h : Ahead source n ts) :
    Proceeds source typeDecl ts fun _ ↦ Ahead source (n - 1) := by
  refine (proceeds_expect h (by decide)).bind fun _ us hus ↦ .accept_ite hus (by decide)
    (fun vs hvs ↦ ?_) fun _ ↦ ?_
  · exact (proceeds_typeGroup hvs).mono fun _ rest hrest ↦ hrest.mono (by omega)
  · exact (proceeds_typeSpec hus).bind fun _ rest hrest ↦
      proceeds_pure (hrest.mono (by omega))

/-- Of a path it does not matter that it takes a token, as the keyword in front of it does. -/
theorem proceeds_importPath (h : Ahead source n ts) :
    Proceeds source importPath ts fun _ ↦ Ahead source n := by
  refine .kind ?_
  split
  next hk => exact (proceeds_skip h (by simp [hk])).mono fun _ rest hrest ↦ hrest.mono (by omega)
  next => exact proceeds_unexpected h _

theorem proceeds_importDecl (h : Ahead source n ts) :
    Proceeds source importDecl ts fun _ ↦ Ahead source (n - 1) := by
  refine (proceeds_expect h (by decide)).bind fun _ us hus ↦ .accept_ite hus (by decide)
    (fun vs hvs ↦ ?_) fun _ ↦ ?_
  · have hstop : ∀ t : Token, t.kind = .eof →
        (t.kind != .closing .paren && t.kind != .eof) = false := fun t ht ↦ by simp [ht]
    refine (proceeds_dropWhile hvs hstop).bind fun _ ws hws ↦ .accept_ite hws (by decide)
      (fun rest hrest ↦ proceeds_pure (hrest.mono (by omega))) fun _ ↦ .here ?_
    exact proceeds_throw (.token hws.first_mem rfl rfl)
  · refine .kind ?_
    split
    next hk =>
      exact (proceeds_skip hus (by simp [hk])).bind fun _ vs hvs ↦
        proceeds_importPath (hvs.mono (by omega))
    next => exact proceeds_importPath hus

/-- There may be no receiver. -/
theorem proceeds_receiver (h : Ahead source n ts) :
    Proceeds source receiver ts fun _ ↦ Ahead source n := by
  refine .here (.accept_ite h (by decide) (fun us hus ↦ ?_) fun _ ↦ proceeds_pure h)
  refine (proceeds_shapeParams hus).bind fun rs rest hrest ↦ ?_
  split
  next => exact proceeds_pure (hrest.mono (by omega))
  next => exact proceeds_throw (.token h.first_mem rfl rfl)

theorem proceeds_funcDecl (h : Ahead source n ts) :
    Proceeds source funcDecl ts fun _ ↦ Ahead source (n - 1) := by
  refine (proceeds_expect h (by decide)).bind fun _ us hus ↦
    (proceeds_receiver hus).bind fun _ vs hvs ↦ (proceeds_ident hvs).bind fun _ ws hws ↦
      (proceeds_signature hws).bind fun _ xs hxs ↦ ?_
  exact (proceeds_block hxs).bind fun _ rest hrest ↦
    proceeds_pure (hrest.mono (by omega))

/-- A variable takes a token, with a type or a value after its name. -/
theorem proceeds_varSpec (h : Ahead source n ts) :
    Proceeds source varSpec ts fun _ ↦ Ahead source (n - 1) := by
  refine (proceeds_expect h (by decide)).bind fun _ us hus ↦
    (proceeds_ident hus).bind fun name vs hvs ↦ .isNext (.atSeparator ?_)
  have hrest (s : Option Shape) (ws : List Token) (hws : Ahead source (n - 1) ws) :
      Proceeds source (do
        if ← accept .assign then return VarSpec.mk name s (some (← expr))
        else return VarSpec.mk name s none) ws fun _ ↦ Ahead source (n - 1) := by
    refine .accept_ite hws (by decide) (fun xs hxs ↦ ?_) fun _ ↦ proceeds_pure hws
    exact (proceeds_expr hxs).bind fun _ rest hrest ↦
      proceeds_pure (hrest.mono (by omega))
  refine proceeds_ite (fun _ ↦ ?_) fun _ ↦ ?_
  · exact (@proceeds_pure _ _ _ (fun _ ↦ Ahead source (n - 1)) _ (hvs.mono (by omega))).bind hrest
  · refine ((proceeds_shape hvs).map fun _ ws hws ↦ hws).bind fun s ws hws ↦ ?_
    exact hrest s ws (hws.mono (by omega))

/-- **A declaration takes a token.** -/
theorem proceeds_topLevel (h : Ahead source n ts) :
    Proceeds source topLevel ts fun _ ↦ Ahead source (n - 1) := by
  refine .kind ?_
  split
  next => exact (proceeds_importDecl h).bind fun _ rest hrest ↦ proceeds_pure hrest
  next => exact (proceeds_typeDecl h).bind fun _ rest hrest ↦ proceeds_pure hrest
  next => exact (proceeds_funcDecl h).bind fun _ rest hrest ↦ proceeds_pure hrest
  next => exact (proceeds_varSpec h).bind fun _ rest hrest ↦ proceeds_pure hrest
  next => exact proceeds_unexpected h _

/-- A round takes a declaration, or the file ends. -/
theorem proceeds_declRound (h : Ahead source n ts) :
    Proceeds source declRound ts fun r ↦ Ahead source (n - r.takes 0) := by
  refine (proceeds_skipSeparators h).bind fun _ us hus ↦ .isNext (proceeds_ite
    (fun _ ↦ proceeds_pure hus) fun _ ↦ ?_)
  refine (proceeds_topLevel hus).bind fun ds vs hvs ↦ .atSeparator (proceeds_ite
    (fun _ ↦ proceeds_pure hvs) fun _ ↦ ?_)
  exact (@proceeds_unexpected _ _ _ _ (fun _ _ ↦ False) hvs _).bind fun _ _ hfalse ↦ hfalse.elim

/-- **A file takes a token or is refused at a place of the source.** -/
theorem proceeds_file (h : Ahead source n ts) :
    Proceeds source file ts fun _ ↦ Ahead source (n - 1) := by
  rw [file_eq]
  refine (proceeds_skipSeparators h).bind fun _ us hus ↦
    (proceeds_expect hus (by decide)).bind fun _ vs hvs ↦
      (proceeds_ident hvs).bind fun _ ws hws ↦ ?_
  exact (proceeds_loop (Nat.zero_le 1) (fun _ _ _ hxs ↦ proceeds_declRound hxs) hws).bind
    fun _ rest hrest ↦ proceeds_pure (hrest.mono (by omega))

end Parser

end GoDecorator
