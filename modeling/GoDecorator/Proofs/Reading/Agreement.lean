import GoDecorator.Proofs.Parser.Agreement
import GoDecorator.Proofs.Reading.Files

/-!
# Reading tokens of the same kinds

Two lists of tokens of the same kinds are read in the same way, from parameters up to whole files
(`agrees_file`). Line breaks are tokens, so this is about the layout within lines: blanks, comments,
and the numbers that a place has.

## Where places are kept

Where a parser keeps a place, what it keeps is only used for a message. The entries of a parameter
list are an example: a lone name has a place, because it is seen only later that it lacks a type.
Resolving the entries is shown not to depend on it (`ParamEntry.unplaced`, `resolveParams_congr`).

The one exception are function bodies, which remember where blanks stand. So **the answers are equal
up to the blanks in bodies** (`Decl.SameKinds`), and they are equal outright if the tokens touch in
the same places. `UpTo tight` says both at once, so that each parser above the one for bodies needs
a single statement.

## Budgets

A parser for types or expressions agrees with one of a larger budget, and so with the parser that
starts with the number of tokens that are left at some earlier place (`agrees_shape_within`). The
two inductions, `agrees_shapeWithin` and `agrees_exprWithin`, are on the smaller budget. All other
proofs follow the text of a parser by the rules for `Agrees`.
-/

namespace GoDecorator

open Token (Kind)

/-! ### Parameter lists -/

/-- The entry without the place of its name. -/
def ParamEntry.unplaced : ParamEntry → ParamEntry
  | .lone name _ => .lone name .unknown
  | e => e

/-- Whether an entry has a name and a type does not depend on its place. -/
theorem ParamEntry.isNamed_congr {e f : ParamEntry} (h : e.unplaced = f.unplaced) :
    e.isNamed = f.isNamed := by
  cases e <;> cases f <;> cases h <;> rfl

theorem ParamEntry.toUnnamed_congr {e f : ParamEntry} (h : e.unplaced = f.unplaced) :
    e.toUnnamed = f.toUnnamed := by
  cases e <;> cases f <;> cases h <;> rfl

/-- An entry has the same name and type to give to the ones before it, or is refused for the same
reason. -/
theorem ParamEntry.prepend_congr {e f : ParamEntry} (h : e.unplaced = f.unplaced)
    (following : List Param) : SameResult Eq (e.prepend following) (f.prepend following) := by
  cases e <;> cases f <;> cases h
  · cases following with
    | nil => exact .error rfl
    | cons next following => exact .ok rfl
  · exact .error rfl
  · exact .ok rfl

/-- The entries of a list, compared without their places. -/
abbrev SameEntries : List ParamEntry → List ParamEntry → Prop :=
  List.Forall₂ fun e f ↦ e.unplaced = f.unplaced

/-- The entries are resolved from the last one on, each with the same parameters after it. -/
theorem resolveNamed_congr {es fs : List ParamEntry} (h : SameEntries es fs) :
    SameResult Eq (resolveNamed es) (resolveNamed fs) := by
  induction h with
  | nil => exact .ok rfl
  | cons hef _ ih => exact ih.bind fun ps _ hps ↦ hps ▸ ParamEntry.prepend_congr hef ps

/-- **The parameters do not depend on the places of their names.** -/
theorem resolveParams_congr {es fs : List ParamEntry} (h : SameEntries es fs) :
    SameResult Eq (resolveParams es) (resolveParams fs) := by
  have hsame : es.any ParamEntry.isNamed = fs.any ParamEntry.isNamed ∧
      es.map ParamEntry.toUnnamed = fs.map ParamEntry.toUnnamed := by
    induction h with
    | nil => exact ⟨rfl, rfl⟩
    | cons hef _ ih =>
      exact ⟨by rw [List.any_cons, List.any_cons, ParamEntry.isNamed_congr hef, ih.1],
        by rw [List.map_cons, List.map_cons, ParamEntry.toUnnamed_congr hef, ih.2]⟩
  unfold resolveParams
  rw [hsame.1, hsame.2]
  split
  · exact resolveNamed_congr h
  · exact .ok rfl

namespace Parser

variable {α : Type} {n : Nat} {tight : Prop}

/-- An entry of a parameter list after an identifier that no dot follows. -/
def entryAfter (inner : Parser Shape) (name : String) (span : Span) : Parser ParamEntry := do
  match ← kind with
  | .comma | .closing .paren | .newline => return .lone name span
  | _ =>
    let variadic ← accept .ellipsis
    return .named name (← inner) variadic

/-- Entries are the same but for the places of lone names. -/
theorem agrees_paramEntry {inner inner' : Parser Shape} (h : Agrees n tight inner inner' Eq) :
    Agrees n tight (paramEntry inner) (paramEntry inner') fun e f ↦ e.unplaced = f.unplaced := by
  have hbare (variadic : Bool) : Agrees n tight (do return ParamEntry.bare (← inner) variadic)
      (do return ParamEntry.bare (← inner') variadic) fun e f ↦ e.unplaced = f.unplaced :=
    h.bindEq fun _ ↦ agrees_pure rfl
  have hnamed (name : String) : Agrees n tight
      (do
        let variadic ← accept .ellipsis
        return ParamEntry.named name (← inner) variadic)
      (do
        let variadic ← accept .ellipsis
        return ParamEntry.named name (← inner') variadic) fun e f ↦ e.unplaced = f.unplaced :=
    (agrees_accept _).bindEq fun _ ↦ h.bindEq fun _ ↦ agrees_pure rfl
  refine (agrees_accept _).bindEq fun variadic ↦ agrees_peek_bind fun k s s' ↦
    agrees_secondKind?.bindEq fun second ↦ ?_
  -- An identifier is a package if a dot follows it, stands alone if the entry ends, or is a name.
  have hident (name : String) : Agrees n tight (do skip; entryAfter inner name s)
      (do skip; entryAfter inner' name s') fun e f ↦ e.unplaced = f.unplaced := by
    refine agrees_skip.bind fun _ _ _ ↦ agrees_kind.bindEq fun k ↦ ?_
    cases k with
    | comma => exact agrees_pure rfl
    | newline => exact agrees_pure rfl
    | closing bracket =>
      cases bracket with
      | paren => exact agrees_pure rfl
      | _ => exact hnamed name
    | _ => exact hnamed name
  cases k with
  | ident name =>
    cases variadic with
    | true => exact hbare true
    | false =>
      cases second with
      | none => exact hident name
      | some second =>
        cases second with
        | dot => exact hbare false
        | _ => exact hident name
  | _ => exact hbare variadic

/-- Once a list is resolved, no place is left. -/
theorem agrees_paramList {inner inner' : Parser Shape} (h : Agrees n tight inner inner' Eq) :
    Agrees n tight (paramList inner) (paramList inner') Eq :=
  (agrees_commaList (agrees_paramEntry h)).bind fun _ _ hes ↦
    agrees_lift (resolveParams_congr hes)

theorem agrees_signatureOf {inner inner' : Parser Shape} (h : Agrees n tight inner inner' Eq) :
    Agrees n tight (signatureOf inner) (signatureOf inner') Eq := by
  refine (agrees_expect _).bind fun _ _ _ ↦ (agrees_paramList h).bindEq fun ps ↦
    (agrees_accept _).bindEq fun _ ↦ agrees_ite (fun _ ↦ ?_) fun _ ↦ ?_
  · exact (agrees_paramList h).bindEq fun _ ↦ agrees_pure rfl
  · refine agrees_kind.bindEq fun _ ↦ agrees_ite (fun _ ↦ ?_) fun _ ↦ agrees_pure rfl
    exact h.bindEq fun _ ↦ agrees_pure rfl

/-! ### Types -/

/-- The place is for the message only. -/
theorem agrees_emptyBraces (what : Unsupported) (s s' : Span) :
    Agrees n tight (emptyBraces what s) (emptyBraces what s') fun _ _ ↦ True :=
  (agrees_expect _).bind fun _ _ _ ↦ agrees_skipNewlines.bind fun _ _ _ ↦
    (agrees_accept _).bindEq fun _ ↦
      agrees_ite (fun _ ↦ agrees_pure trivial) fun _ ↦ agrees_throw rfl

/-- The place of the name is for the message only. -/
theorem agrees_namedShape (name : String) (s s' : Span) :
    Agrees n tight (namedShape name s) (namedShape name s') Eq := by
  have hrest (shape : Shape) : Agrees n tight
      (do
        if ← isNext (.opening .square) then throw (.unsupportedType .genericInstantiation s)
        return shape)
      (do
        if ← isNext (.opening .square) then throw (.unsupportedType .genericInstantiation s')
        return shape) Eq :=
    (agrees_isNext _).bindEq fun _ ↦
      agrees_ite (fun _ ↦ agrees_throw_bind (by rfl)) fun _ ↦ agrees_pure rfl
  refine (agrees_accept _).bindEq fun _ ↦ agrees_ite (fun _ ↦ ?_) fun _ ↦ ?_
  · exact (agrees_ident.map fun _ _ h ↦ congrArg _ h).bindEq hrest
  · exact (agrees_pure rfl).bindEq hrest

/-- **A type is read in the same way within a larger budget.** -/
theorem agrees_shapeWithin {budget budget' : Nat} (hb : budget ≤ budget') :
    Agrees n tight (shapeWithin budget) (shapeWithin budget') Eq := by
  induction budget generalizing budget' with
  | zero => exact agrees_overBudget _
  | succ budget ih =>
    obtain ⟨budget', rfl⟩ := Nat.exists_eq_add_one.2 (Nat.lt_of_lt_of_le (Nat.succ_pos _) hb)
    have hinner := ih (Nat.le_of_succ_le_succ hb)
    refine agrees_peek_bind fun k s s' ↦ ?_
    cases k with
    | star => exact agrees_skip.bind fun _ _ _ ↦ hinner.bindEq fun _ ↦ agrees_pure rfl
    | arrow =>
      exact agrees_skip.bind fun _ _ _ ↦ (agrees_expect _).bind fun _ _ _ ↦
        hinner.bindEq fun _ ↦ agrees_pure rfl
    | ident name => exact agrees_skip.bind fun _ _ _ ↦ agrees_namedShape name s s'
    | opening bracket =>
      cases bracket with
      | square =>
        refine agrees_skip.bind fun _ _ _ ↦ (agrees_accept _).bindEq fun _ ↦
          agrees_ite (fun _ ↦ ?_) fun _ ↦ agrees_throw_bind (by rfl)
        exact hinner.bindEq fun _ ↦ agrees_pure rfl
      | paren =>
        exact agrees_skip.bind fun _ _ _ ↦ agrees_skipNewlines.bind fun _ _ _ ↦
          hinner.bindEq fun _ ↦ agrees_skipNewlines.bind fun _ _ _ ↦
            (agrees_expect _).bind fun _ _ _ ↦ agrees_pure rfl
      | brace => exact agrees_throw rfl
    | keyword word =>
      cases word with
      | map =>
        exact agrees_skip.bind fun _ _ _ ↦ (agrees_expect _).bind fun _ _ _ ↦
          hinner.bindEq fun _ ↦ (agrees_expect _).bind fun _ _ _ ↦
            hinner.bindEq fun _ ↦ agrees_pure rfl
      | chan =>
        exact agrees_skip.bind fun _ _ _ ↦ (agrees_accept _).bindEq fun _ ↦
          hinner.bindEq fun _ ↦ agrees_pure rfl
      | func =>
        exact agrees_skip.bind fun _ _ _ ↦ (agrees_signatureOf hinner).bindEq fun _ ↦
          agrees_pure rfl
      | interface =>
        exact agrees_skip.bind fun _ _ _ ↦ (agrees_emptyBraces _ s s').bind fun _ _ _ ↦
          agrees_pure rfl
      | struct =>
        exact agrees_skip.bind fun _ _ _ ↦ (agrees_emptyBraces _ s s').bind fun _ _ _ ↦
          agrees_pure rfl
      | _ => exact agrees_throw rfl
    | _ => exact agrees_throw rfl

theorem agrees_shape : Agrees n tight shape shape Eq :=
  agrees_get.bind fun _ _ hts ↦
    agrees_shapeWithin (Nat.succ_le_succ (Nat.le_of_eq hts.length_eq))

/-- A type is read in the same way with a budget that suffices for all tokens. -/
theorem agrees_shape_within {budget : Nat} (hb : n < budget) :
    Agrees n tight shape (shapeWithin budget) Eq := by
  intro ts us hts
  exact agrees_shapeWithin (Nat.succ_le_of_lt (Nat.lt_of_le_of_lt hts.length hb)) ts us hts

theorem agrees_signature : Agrees n tight signature signature Eq := agrees_signatureOf agrees_shape

/-! ### Expressions -/

theorem agrees_selectors : Agrees n tight selectors selectors Eq := by
  refine agrees_rounds_eq ?_
  refine agrees_kind.bindEq fun k ↦ agrees_secondKind?.bindEq fun second ↦ ?_
  cases k with
  | dot =>
    cases second with
    | none => exact agrees_pure .stop
    | some second =>
      cases second with
      | ident name =>
        exact agrees_skip.bind fun _ _ _ ↦ agrees_skip.bind fun _ _ _ ↦ agrees_pure (.more rfl)
      | _ => exact agrees_pure .stop
  | _ => exact agrees_pure .stop

theorem agrees_pathOrComposite (name : String) (s s' : Span) :
    Agrees n tight (pathOrComposite name s) (pathOrComposite name s') Eq := by
  refine agrees_selectors.bindEq fun path ↦ (agrees_accept _).bindEq fun _ ↦
    agrees_ite (fun _ ↦ (agrees_expect _).bind fun _ _ _ ↦ ?_) fun _ ↦ agrees_pure rfl
  match path with
  | [] => exact agrees_pure rfl
  | [_] => exact agrees_pure rfl
  | _ :: _ :: _ => exact agrees_throw rfl

/-- Operands are read in the same way if what stands inside them is. -/
theorem agrees_primary {inner inner' : Parser Expr} (h : Agrees n tight inner inner' Eq) :
    Agrees n tight (primary inner) (primary inner') Eq := by
  have hliteral (text : String) : Agrees n tight (do skip; return Expr.literal text)
      (do skip; return Expr.literal text) Eq :=
    agrees_skip.bind fun _ _ _ ↦ agrees_pure rfl
  have hcomposite : Agrees n tight
      (do
        let s ← shape
        expect (.opening .brace)
        expect (.closing .brace)
        return Expr.composite s)
      (do
        let s ← shape
        expect (.opening .brace)
        expect (.closing .brace)
        return Expr.composite s) Eq :=
    agrees_shape.bindEq fun _ ↦ (agrees_expect _).bind fun _ _ _ ↦
      (agrees_expect _).bind fun _ _ _ ↦ agrees_pure rfl
  refine agrees_peek_bind fun k s s' ↦ ?_
  cases k with
  | int text => exact hliteral text
  | float text => exact hliteral text
  | str text => exact hliteral text
  | rune text => exact hliteral text
  | ident name => exact agrees_skip.bind fun _ _ _ ↦ agrees_pathOrComposite name s s'
  | opening bracket =>
    cases bracket with
    | square => exact hcomposite
    | paren =>
      exact agrees_skip.bind fun _ _ _ ↦ h.bindEq fun _ ↦ (agrees_expect _).bind fun _ _ _ ↦
        agrees_pure rfl
    | brace => exact agrees_unexpected _
  | keyword word =>
    cases word with
    | map => exact hcomposite
    | struct => exact hcomposite
    | _ => exact agrees_unexpected _
  | _ => exact agrees_unexpected _

theorem agrees_argument {inner inner' : Parser Expr} (h : Agrees n tight inner inner' Eq) :
    Agrees n tight (argument inner) (argument inner') Eq :=
  h.bindEq fun _ ↦ (agrees_accept _).bindEq fun _ ↦
    agrees_ite (fun _ ↦ agrees_pure rfl) fun _ ↦ agrees_pure rfl

theorem agrees_argumentLists {inner inner' : Parser Expr} (h : Agrees n tight inner inner' Eq) :
    Agrees n tight (argumentLists inner) (argumentLists inner') Eq := by
  refine agrees_rounds_eq ?_
  refine (agrees_accept _).bindEq fun _ ↦ agrees_ite (fun _ ↦ ?_) fun _ ↦ agrees_pure .stop
  refine (agrees_commaList (agrees_argument h)).bind fun _ _ hargs ↦ agrees_pure (.more ?_)
  exact List.forall₂_eq_eq_eq ▸ hargs

/-- **An expression is read in the same way within a larger budget.** -/
theorem agrees_exprWithin {budget budget' : Nat} (hb : budget ≤ budget') :
    Agrees n tight (exprWithin budget) (exprWithin budget') Eq := by
  induction budget generalizing budget' with
  | zero => exact agrees_overBudget _
  | succ budget ih =>
    obtain ⟨budget', rfl⟩ := Nat.exists_eq_add_one.2 (Nat.lt_of_lt_of_le (Nat.succ_pos _) hb)
    have hinner := ih (Nat.le_of_succ_le_succ hb)
    refine agrees_kind.bindEq fun k ↦ ?_
    cases UnaryOp.ofKind? k with
    | some op => exact agrees_skip.bind fun _ _ _ ↦ hinner.bindEq fun _ ↦ agrees_pure rfl
    | none =>
      exact (agrees_primary hinner).bindEq fun _ ↦ (agrees_argumentLists hinner).bindEq fun _ ↦
        agrees_pure rfl

theorem agrees_expr : Agrees n tight expr expr Eq :=
  agrees_get.bind fun _ _ hts ↦
    agrees_exprWithin (Nat.succ_le_succ (Nat.le_of_eq hts.length_eq))

end Parser

/-! ### Bodies -/

/-- Related, and equal if `tight` holds. -/
def UpTo {α : Type} (tight : Prop) (R : α → α → Prop) (a b : α) : Prop := R a b ∧ (tight → a = b)

/-- Lists are equal if their members are. -/
theorem UpTo.of_forall₂ {α : Type} {tight : Prop} {R : α → α → Prop} {as bs : List α}
    (h : List.Forall₂ (UpTo tight R) as bs) : UpTo tight (List.Forall₂ R) as bs :=
  ⟨h.imp fun _ _ hab ↦ hab.1, fun ht ↦
    List.forall₂_eq_eq_eq ▸ h.imp fun _ _ hab ↦ hab.2 ht⟩

/-- Lines of tokens of the same kinds, whatever stands between them. -/
def SameKinds (l m : Line) : Prop := l.map BodyToken.kind = m.map BodyToken.kind

theorem SameKinds.isEmpty_eq {l m : Line} (h : SameKinds l m) : l.isEmpty = m.isEmpty := by
  have hlength := congrArg List.isEmpty h
  rwa [List.isEmpty_map, List.isEmpty_map] at hlength

namespace Block

/-- Which lines are blank depends on the kinds of their tokens: there are none. -/
theorem forall₂_settle {ls ms : List Line} (h : List.Forall₂ SameKinds ls ms) (gap : Bool) :
    List.Forall₂ SameKinds (settle gap ls) (settle gap ms) := by
  induction h generalizing gap with
  | nil => exact .nil
  | cons hlm _ ih =>
    rw [settle, settle, hlm.isEmpty_eq]
    split
    · exact ih true
    · split
      · exact .cons rfl (.cons hlm (ih false))
      · exact .cons hlm (ih false)

/-- Blank lines are settled in the same way in lines of the same kinds. -/
theorem forall₂_ofLines {ls ms : List Line} (h : List.Forall₂ SameKinds ls ms) :
    List.Forall₂ SameKinds (ofLines ls).lines (ofLines ms).lines := by
  induction h with
  | nil => exact .nil
  | @cons l m ls ms hlm hrest ih =>
    cases hempty : l.isEmpty with
    | true =>
      have hempty' := hlm.isEmpty_eq ▸ hempty
      simp only [ofLines, List.dropWhile_cons, hempty, hempty', if_true]
      exact ih
    | false =>
      have hempty' := hlm.isEmpty_eq ▸ hempty
      simp only [ofLines, List.dropWhile_cons, hempty, hempty', Bool.false_eq_true, if_false]
      exact forall₂_settle (.cons hlm hrest) false

end Block

namespace Parser

/-- What is read of a body from tokens of the same kinds. -/
def SameBody (n : Nat) (tight : Prop) (x y : Line × List Line × List Token) : Prop :=
  UpTo tight SameKinds x.1 y.1 ∧ UpTo tight (List.Forall₂ SameKinds) x.2.1 y.2.1 ∧
    Alike n tight x.2.2 y.2.2

/-- The first tokens stand in the same way after what is before them. -/
def SameGap (previous previous' : Option Span) (ts us : List Token) : Prop :=
  ∀ t ∈ ts.head?, ∀ u ∈ us.head?,
    (BodyToken.ofToken previous t).spaced = (BodyToken.ofToken previous' u).spaced

/-- The tokens after two others that touch in the same places. -/
theorem sameGap_of_touchings {t u : Token} {ts us : List Token}
    (h : touchings (t :: ts) = touchings (u :: us)) :
    SameGap (some t.span) (some u.span) ts us := by
  rintro t' ht' u' hu'
  obtain ⟨ts, rfl⟩ := List.head?_eq_some_iff.1 ht'
  obtain ⟨us, rfl⟩ := List.head?_eq_some_iff.1 hu'
  exact congrArg not (List.head_eq_of_cons_eq h)

/-- **A body is read by its kinds**, whatever places are remembered on the way. Only the blanks
depend on which tokens touch. -/
theorem bodyLines_congr {ts us : List Token} (h : Alike n tight ts us) (opening opening' : Span)
    {previous previous' : Option Span} (hprevious : tight → SameGap previous previous' ts us)
    (depth : Nat) :
    SameResult (SameBody n tight) (bodyLines opening previous depth ts)
      (bodyLines opening' previous' depth us) := by
  induction ts generalizing us previous previous' depth with
  | nil =>
    rw [List.map_eq_nil_iff.1 h.kinds.symm]
    exact .error rfl
  | cons t ts ih =>
    obtain ⟨u, us, rfl, hkind, hkinds⟩ := List.map_eq_cons_iff.1 h.kinds.symm
    have hrest : Alike n tight ts us := h.tail
    obtain ⟨k, s⟩ := t
    obtain ⟨k', s'⟩ := u
    obtain rfl : k' = k := hkind
    have hgap (ht : tight) : BodyToken.ofToken previous ⟨k', s⟩ = .ofToken previous' ⟨k', s'⟩ :=
      congrArg (BodyToken.mk k') (hprevious ht _ rfl _ rfl)
    -- A token that belongs to the line is put in front of what is read after it.
    have htake (depth : Nat) : SameResult (SameBody n tight)
        (bodyLines opening (some s) depth ts >>= fun r ↦
          .ok (BodyToken.ofToken previous ⟨k', s⟩ :: r.1, r.2.1, r.2.2))
        (bodyLines opening' (some s') depth us >>= fun r ↦
          .ok (BodyToken.ofToken previous' ⟨k', s'⟩ :: r.1, r.2.1, r.2.2)) := by
      refine (ih hrest (fun ht ↦ sameGap_of_touchings (h.touching ht)) depth).bind
        fun x y ⟨hline, hlines⟩ ↦ .ok ⟨⟨congrArg (List.cons k') hline.1, fun ht ↦ ?_⟩, hlines⟩
      show _ :: x.1 = _ :: y.1
      rw [hgap ht, hline.2 ht]
    rw [bodyLines, bodyLines]
    cases k' with
    | eof => exact .error rfl
    | newline =>
      refine (ih hrest (fun _ _ _ _ _ ↦ rfl) depth).bind fun x y ⟨hline, hlines, hafter⟩ ↦
        .ok ⟨⟨rfl, fun _ ↦ rfl⟩, ⟨.cons hline.1 hlines.1, fun ht ↦ ?_⟩, hafter⟩
      show x.1 :: x.2.1 = y.1 :: y.2.1
      rw [hline.2 ht, hlines.2 ht]
    | opening bracket => exact htake (depth + 1)
    | closing bracket =>
      cases depth with
      | succ depth => exact htake depth
      | zero =>
        dsimp only
        split
        · exact .ok ⟨⟨rfl, fun _ ↦ rfl⟩, ⟨.nil, fun _ ↦ rfl⟩, hrest⟩
        · exact .error rfl
    | _ => exact htake depth

/-- **Bodies are the same up to their blanks**, and with the blanks if the tokens touch in the same
places. -/
theorem agrees_block : Agrees n tight block block
    (UpTo tight fun b c ↦ List.Forall₂ SameKinds b.lines c.lines) := by
  refine agrees_here.bind fun o o' _ ↦ (agrees_expect _).bind fun _ _ _ ↦
    agrees_get.bind fun ts us hts ↦
      (agrees_lift (bodyLines_congr hts o o' (fun _ _ _ _ _ ↦ rfl) 0)).bind
        fun x y ⟨hline, hlines, hafter⟩ ↦ (agrees_set hafter).bind fun _ _ _ ↦ agrees_pure ⟨?_, ?_⟩
  · exact Block.forall₂_ofLines (.cons hline.1 hlines.1)
  · exact fun ht ↦ by rw [hline.2 ht, hlines.2 ht]

/-! ### Type declarations -/

theorem agrees_member : Agrees n tight member member Eq := by
  refine agrees_ident.bindEq fun name ↦ (agrees_isNext _).bindEq fun _ ↦
    agrees_ite (fun _ ↦ ?_) fun _ ↦ (agrees_accept _).bindEq fun _ ↦
      agrees_ite (fun _ ↦ ?_) fun _ ↦ agrees_pure rfl
  · exact agrees_signature.bindEq fun _ ↦ agrees_pure rfl
  · exact agrees_ident.bindEq fun _ ↦ agrees_pure rfl

/-- Interfaces are lists of members, one in a round. -/
theorem agrees_interfaceBody : Agrees n tight interfaceBody interfaceBody Eq := by
  refine (agrees_rounds_eq ?_).map fun _ _ h ↦ congrArg interfaceOf h
  refine agrees_skipSeparators.bind fun _ _ _ ↦ (agrees_accept _).bindEq fun _ ↦
    agrees_ite (fun _ ↦ agrees_pure .stop) fun _ ↦ agrees_here.bind fun _ _ _ ↦
      agrees_atEnd.bindEq fun _ ↦ agrees_ite (fun _ ↦ agrees_throw_bind (by rfl)) fun _ ↦ ?_
  exact agrees_member.bindEq fun _ ↦ agrees_atSeparator.bindEq fun _ ↦
    (agrees_isNext _).bindEq fun _ ↦
      agrees_ite (fun _ ↦ agrees_pure (.more rfl)) fun _ ↦ agrees_throw_bind (by rfl)

theorem agrees_moreNames : Agrees n tight moreNames moreNames Eq := by
  refine agrees_rounds_eq ((agrees_accept _).bindEq fun _ ↦
    agrees_ite (fun _ ↦ ?_) fun _ ↦ agrees_pure .stop)
  exact agrees_ident.bindEq fun _ ↦ agrees_pure (.more rfl)

theorem agrees_structBody : Agrees n tight structBody structBody Eq := by
  refine (agrees_rounds_eq ?_).map fun _ _ h ↦ congrArg List.flatten h
  refine agrees_skipSeparators.bind fun _ _ _ ↦ (agrees_accept _).bindEq fun _ ↦
    agrees_ite (fun _ ↦ agrees_pure .stop) fun _ ↦ agrees_here.bind fun _ _ _ ↦
      agrees_atEnd.bindEq fun _ ↦ agrees_ite (fun _ ↦ agrees_throw_bind (by rfl)) fun _ ↦ ?_
  refine agrees_ident.bindEq fun _ ↦ agrees_moreNames.bindEq fun _ ↦
    agrees_atSeparator.bindEq fun _ ↦ (agrees_isNext _).bindEq fun _ ↦
      (agrees_isNext _).bindEq fun _ ↦ agrees_ite (fun _ ↦ agrees_throw_bind (by rfl)) fun _ ↦ ?_
  exact agrees_shape.bindEq fun _ ↦ agrees_pure (.more rfl)

theorem agrees_typeExpr : Agrees n tight typeExpr typeExpr Eq := by
  have hshape : Agrees n tight (do return TypeExpr.shape (← shape))
      (do return TypeExpr.shape (← shape)) Eq := agrees_shape.bindEq fun _ ↦ agrees_pure rfl
  refine agrees_kind.bindEq fun k ↦ ?_
  cases k with
  | keyword word =>
    cases word with
    | interface =>
      exact agrees_skip.bind fun _ _ _ ↦ (agrees_expect _).bind fun _ _ _ ↦
        agrees_interfaceBody.bindEq fun _ ↦ agrees_pure rfl
    | struct =>
      exact agrees_skip.bind fun _ _ _ ↦ (agrees_expect _).bind fun _ _ _ ↦
        agrees_structBody.bindEq fun _ ↦ agrees_pure rfl
    | _ => exact hshape
  | _ => exact hshape

theorem agrees_typeSpec : Agrees n tight typeSpec typeSpec Eq := by
  refine agrees_ident.bindEq fun name ↦ ?_
  have hrest : Agrees n tight
      (do
        let _ ← accept .assign
        return (⟨name, ← typeExpr⟩ : TypeSpec))
      (do
        let _ ← accept .assign
        return (⟨name, ← typeExpr⟩ : TypeSpec)) Eq :=
    (agrees_accept _).bindEq fun _ ↦ agrees_typeExpr.bindEq fun _ ↦ agrees_pure rfl
  refine (agrees_isNext _).bindEq fun _ ↦ agrees_ite (fun _ ↦ ?_) fun _ ↦ hrest
  refine agrees_secondKind?.bindEq fun _ ↦ agrees_ite (fun _ ↦ hrest) fun _ ↦ ?_
  exact agrees_here.bind fun _ _ _ ↦ agrees_throw_bind (by rfl)

theorem agrees_typeGroup : Agrees n tight typeGroup typeGroup Eq := by
  refine agrees_rounds_eq (agrees_skipSeparators.bind fun _ _ _ ↦ (agrees_accept _).bindEq fun _ ↦
    agrees_ite (fun _ ↦ agrees_pure .stop) fun _ ↦ agrees_typeSpec.bindEq fun spec ↦ ?_)
  refine agrees_atSeparator.bindEq fun _ ↦ (agrees_isNext _).bindEq fun _ ↦
    agrees_ite (fun _ ↦ agrees_pure (.more rfl)) fun _ ↦ ?_
  exact (@agrees_unexpected _ _ _ _ (fun _ _ ↦ True) _).bind fun _ _ _ ↦ agrees_pure (.more rfl)

theorem agrees_typeDecl : Agrees n tight typeDecl typeDecl Eq :=
  (agrees_expect _).bind fun _ _ _ ↦ (agrees_accept _).bindEq fun _ ↦
    agrees_ite (fun _ ↦ agrees_typeGroup) fun _ ↦
      agrees_typeSpec.bindEq fun _ ↦ agrees_pure rfl

end Parser

/-! ### Declarations and files -/

/-- Functions that are the same up to the blanks in their bodies. -/
def FuncDecl.SameKinds (f g : FuncDecl) : Prop :=
  f.receiver = g.receiver ∧ f.name = g.name ∧ f.signature = g.signature ∧
    List.Forall₂ GoDecorator.SameKinds f.body.lines g.body.lines

/-- Declarations that are the same up to the blanks in the bodies of functions. -/
inductive Decl.SameKinds : Decl → Decl → Prop
  | type (spec : TypeSpec) : SameKinds (.type spec) (.type spec)
  | func {f g : FuncDecl} (h : f.SameKinds g) : SameKinds (.func f) (.func g)
  | var (spec : VarSpec) : SameKinds (.var spec) (.var spec)

/-- Files that are the same up to the blanks in the bodies of functions. -/
def SourceFile.SameKinds (f g : SourceFile) : Prop :=
  f.package = g.package ∧ List.Forall₂ Decl.SameKinds f.decls g.decls

namespace Parser

/-- Nothing is kept of an import. -/
theorem agrees_importDecl : Agrees n tight importDecl importDecl fun _ _ ↦ True := by
  refine (agrees_expect _).bind fun _ _ _ ↦ (agrees_accept _).bindEq fun _ ↦
    agrees_ite (fun _ ↦ ?_) fun _ ↦ ?_
  · refine (agrees_modify fun _ _ h ↦ h.dropWhile fun k ↦ k != .closing .paren && k != .eof).bind
      fun _ _ _ ↦ (agrees_accept _).bindEq fun _ ↦
        agrees_ite (fun _ ↦ agrees_pure trivial) fun _ ↦ ?_
    exact agrees_here.bind fun _ _ _ ↦ agrees_throw rfl
  · have hpath : Agrees n tight importPath importPath fun _ _ ↦ True := by
      refine agrees_kind.bindEq fun k ↦ ?_
      cases k with
      | str text => exact agrees_skip
      | _ => exact agrees_unexpected _
    refine agrees_kind.bindEq fun k ↦ ?_
    cases k with
    | ident name => exact agrees_skip.bind fun _ _ _ ↦ hpath
    | _ => exact hpath

theorem agrees_receiver : Agrees n tight receiver receiver Eq := by
  refine agrees_here.bind fun s s' _ ↦ (agrees_accept _).bindEq fun _ ↦
    agrees_ite (fun _ ↦ (agrees_paramList agrees_shape).bindEq fun rs ↦ ?_) fun _ ↦ agrees_pure rfl
  match rs with
  | [] => exact agrees_throw rfl
  | [_] => exact agrees_pure rfl
  | _ :: _ :: _ => exact agrees_throw rfl

theorem agrees_funcDecl : Agrees n tight funcDecl funcDecl (UpTo tight FuncDecl.SameKinds) :=
  (agrees_expect _).bind fun _ _ _ ↦ agrees_receiver.bindEq fun _ ↦ agrees_ident.bindEq fun _ ↦
    agrees_signature.bindEq fun _ ↦ agrees_block.bind fun _ _ h ↦
      agrees_pure ⟨⟨rfl, rfl, rfl, h.1⟩, fun ht ↦ by rw [h.2 ht]⟩

theorem agrees_varSpec : Agrees n tight varSpec varSpec Eq := by
  have hvalue (name : String) (s : Option Shape) : Agrees n tight
      (do if ← accept .assign then return (⟨name, s, some (← expr)⟩ : VarSpec)
          else return ⟨name, s, none⟩)
      (do if ← accept .assign then return (⟨name, s, some (← expr)⟩ : VarSpec)
          else return ⟨name, s, none⟩) Eq :=
    (agrees_accept _).bindEq fun _ ↦
      agrees_ite (fun _ ↦ agrees_expr.bindEq fun _ ↦ agrees_pure rfl) fun _ ↦ agrees_pure rfl
  refine (agrees_expect _).bind fun _ _ _ ↦ agrees_ident.bindEq fun name ↦
    (agrees_isNext _).bindEq fun _ ↦ agrees_atSeparator.bindEq fun _ ↦
      agrees_ite (fun _ ↦ (agrees_pure rfl).bindEq (hvalue name)) fun _ ↦ ?_
  exact (agrees_shape.map fun _ _ h ↦ congrArg some h).bindEq (hvalue name)

/-- A word decides what kind of declaration is read. -/
theorem agrees_topLevel :
    Agrees n tight topLevel topLevel (UpTo tight (List.Forall₂ Decl.SameKinds)) := by
  refine agrees_kind.bindEq fun k ↦ ?_
  cases k with
  | keyword word =>
    cases word with
    | imports => exact agrees_importDecl.bind fun _ _ _ ↦ agrees_pure ⟨.nil, fun _ ↦ rfl⟩
    | type =>
      refine agrees_typeDecl.bindEq fun specs ↦ agrees_pure ⟨?_, fun _ ↦ rfl⟩
      rw [List.forall₂_map_left_iff, List.forall₂_map_right_iff]
      exact List.forall₂_same.2 fun spec _ ↦ .type spec
    | func =>
      exact agrees_funcDecl.bind fun _ _ h ↦
        agrees_pure ⟨.cons (.func h.1) .nil, fun ht ↦ by rw [h.2 ht]⟩
    | var =>
      exact agrees_varSpec.bindEq fun spec ↦ agrees_pure ⟨.cons (.var spec) .nil, fun _ ↦ rfl⟩
    | _ => exact agrees_unexpected _
  | _ => exact agrees_unexpected _

theorem agrees_declRound :
    Agrees n tight declRound declRound
      (Round.Rel (UpTo tight (List.Forall₂ Decl.SameKinds))) := by
  refine agrees_skipSeparators.bind fun _ _ _ ↦ agrees_atEnd.bindEq fun _ ↦
    agrees_ite (fun _ ↦ agrees_pure .stop) fun _ ↦ agrees_topLevel.bind fun ds ds' hds ↦
      agrees_atSeparator.bindEq fun _ ↦ agrees_ite (fun _ ↦ agrees_pure (.more hds)) fun _ ↦ ?_
  exact (@agrees_unexpected _ _ _ _ (fun _ _ ↦ True) _).bind fun _ _ _ ↦ agrees_pure (.more hds)

/-- **Files of tokens of the same kinds are read in the same way.** -/
theorem agrees_file : Agrees n tight file file (UpTo tight SourceFile.SameKinds) := by
  refine agrees_skipSeparators.bind fun _ _ _ ↦ (agrees_expect _).bind fun _ _ _ ↦
    agrees_ident.bindEq fun _ ↦ (agrees_rounds agrees_declRound).bind fun dss dss' h ↦
      agrees_pure ⟨⟨rfl, ?_⟩, fun ht ↦ ?_⟩
  · exact List.rel_flatten (UpTo.of_forall₂ h).1
  · rw [(UpTo.of_forall₂ h).2 ht]

end Parser

end GoDecorator
