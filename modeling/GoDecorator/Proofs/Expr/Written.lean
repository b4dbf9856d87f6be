import GoDecorator.Proofs.Expr.Soundness
import GoDecorator.Proofs.Shape.Written
import GoDecorator.Reading

/-!
# The tokens of a written expression

The written form of an expression as atoms (`Expr.atoms`), constructor by constructor. **In front of
a text that does not draw its last token further, the tokens of the written form are read back**
(`spelledAt_atoms`).

## Forms that are not read back

Nothing is put between an operator and its operand or around an operand, so the question is where
two tokens that touch are read as something else. `Expr.Separable` lists the forms in which that
happens, and the forms in which the tokens are read back but taken together in another way: an
operator under another one that fuses with it, an operator in a callee, a composite literal with a
type that is not read as itself, a literal without its closing quote in front of a comma or a
parenthesis, and a number with a point at its end in front of dots.

There is one more form: a raw string literal without its closing quote takes the line break after it
(`Expr.Reprintable`).

## Both ends of a form

What an expression needs of the text after it is said by `Expr.FollowedBy`, by recursion along its
last operand. A call and a composite literal end with a bracket and need nothing.

What an operator needs of the text after it depends on the first character of its operand. That is a
letter, a digit or one of a few marks (`StartsOperand`), which no operator goes on with, or another
operator, and these are read apart unless they fuse (`UnaryOp.readsBefore_kind`).
-/

namespace GoDecorator

open Token

/-! ### Forms that are not read back -/

/-- The pairs of operators that are read as one symbol if they touch. -/
def UnaryOp.fusing : List (UnaryOp × UnaryOp) :=
  [(.minus, .minus), (.plus, .plus), (.address, .address), (.address, .complement)]

namespace Expr

/-- **The expression has none of five forms** whose written form is read as something else. -/
structure Separable (e : Expr) : Prop where
  /-- No two operators are read as one symbol. -/
  operators : ∀ op op' x, .unary op (.unary op' x) ∈ e.parts → (op, op') ∉ UnaryOp.fusing
  /-- Nothing that starts with an operator is called. -/
  callees : ∀ op x args, .call (.unary op x) args ∉ e.parts
  /-- The types of composite literals are read as themselves, and none is the empty interface. -/
  composites : ∀ s, .composite s ∈ e.parts → s ≠ .any ∧ Shape.read s.text = .ok s
  /-- The literals in arguments have their closing quotes. -/
  arguments : ∀ f args, .call f args ∈ e.parts → ∀ a ∈ args, ∀ t, .literal t ∈ a.parts →
    isUnclosed t = false
  /-- Nothing is spread that ends in a number with a point at its end. -/
  spreads : ∀ x, .spread x ∈ e.parts → ∀ t ∈ x.lastLiteral?, isQuoted t = false →
    t.toList.getLast? ≠ some '.'

/-- The expression has none of the five forms, and no raw string literal without its closing quote.
-/
structure Reprintable (e : Expr) : Prop extends Separable e where
  /-- Raw string literals have their closing quotes. -/
  raw : ∀ t, .literal t ∈ e.parts → isRaw t = true → isUnclosed t = false

/-- A part of an expression has no form that the expression has not. -/
theorem Reprintable.of_subset {e x : Expr} (h : e.Reprintable) (hx : x.parts ⊆ e.parts) :
    x.Reprintable where
  operators op op' y hy := h.operators op op' y (hx hy)
  callees op y args hy := h.callees op y args (hx hy)
  composites s hs := h.composites s (hx hs)
  arguments f args hcall := h.arguments f args (hx hcall)
  spreads y hy := h.spreads y (hx hy)
  raw t ht := h.raw t (hx ht)

end Expr

/-! ### Atoms -/

namespace UnaryOp

/-- The token of an operator. -/
def kind : UnaryOp → Kind
  | address => .amp
  | deref => .star
  | receive => .arrow
  | minus => .op "-"
  | plus => .op "+"
  | not => .op "!"
  | complement => .op "^"

@[simp] theorem text_kind (op : UnaryOp) : op.kind.text = op.text := by
  cases op <;> rfl

@[simp] theorem ofKind?_kind (op : UnaryOp) : ofKind? op.kind = some op := by
  cases op <;> rfl

/-- Operators are symbols. -/
theorem kind_mem_symbols (op : UnaryOp) : op.kind ∈ symbols := by
  cases op <;> decide

end UnaryOp

/-- The atoms of names that follow a name, each after a point. -/
def selectorAtoms (names : List String) : List Atom :=
  names.flatMap fun n ↦ [.token .dot, .token (.ident n)]

/-- The atoms of names with points between them. -/
def pathAtoms : List String → List Atom
  | [] => []
  | n :: names => .token (.ident n) :: selectorAtoms names

mutual

/-- The atoms of an expression. -/
def Expr.atoms : Expr → List Atom
  | .ident path => pathAtoms (pathNames path)
  | .literal t => [.token (literalKind t)]
  | .composite s => s.atoms ++ [.token (.opening .brace), .token (.closing .brace)]
  | .unary op e => .token op.kind :: e.atoms
  | .call f args =>
    f.atoms ++ .token (.opening .paren) ::
      (commaAtoms (Expr.atomsOfArgs args) ++ [.token (.closing .paren)])
  | .spread e => e.atoms ++ [.token .ellipsis]

/-- The atoms of arguments. -/
def Expr.atomsOfArgs : List Expr → List (List Atom)
  | [] => []
  | e :: es => e.atoms :: Expr.atomsOfArgs es

end

/-- The atoms of arguments are those of each argument. -/
theorem Expr.atomsOfArgs_eq_map (args : List Expr) : atomsOfArgs args = args.map atoms := by
  induction args with
  | nil => rfl
  | cons a args ih => rw [atomsOfArgs, ih, List.map_cons]

/-- The text of a path. -/
theorem atomsText_pathAtoms (names : List String) :
    atomsText (pathAtoms names) = (".".intercalate names).toList := by
  cases names with
  | nil => rfl
  | cons n names =>
    induction names generalizing n with
    | nil => simp [pathAtoms, selectorAtoms, Kind.text]
    | cons m names ih =>
      have hcons : atomsText (pathAtoms (n :: m :: names)) =
          n.toList ++ '.' :: atomsText (pathAtoms (m :: names)) := by
        simp [pathAtoms, selectorAtoms, Kind.text]
      rw [hcons, ih m]
      simp

/-- **The atoms spell the written form.** -/
@[simp] theorem Expr.atomsText_atoms (e : Expr) : atomsText e.atoms = e.text.toList := by
  induction e using Expr.induct with
  | ident path => rw [atoms, atomsText_pathAtoms, intercalate_pathNames, text]
  | literal t => simp [atoms, text]
  | composite s => simp [atoms, text, Kind.text]
  | unary op e ih => simp [atoms, text, ih]
  | call f args ihf ihargs =>
    have hargs : (args.map atoms).map atomsText = (args.map text).map String.toList := by
      simpa using ihargs
    simp [atoms, text, ihf, atomsOfArgs_eq_map, argTexts_eq_map, atomsText_commaAtoms, hargs,
      commaSeparated, String.toList_intercalate, Kind.text]
  | spread e ih => simp [atoms, text, ih, Kind.text]

/-! ### The end of an expression -/

/-- The last token of the written form is not drawn further by the text after it. -/
def Expr.FollowedBy : Expr → List Char → Prop
  | .ident _, rest => rest.head?.any Text.isIdentPart = false
  | .literal t, rest => EndsLiteral t rest
  | .composite _, _ => True
  | .unary _ e, rest => e.FollowedBy rest
  | .call _ _, _ => True
  | .spread e, rest => e.FollowedBy ("...".toList ++ rest)

namespace Expr

/-- If it is not spread, only a literal at the end asks for more than that no name goes on. -/
theorem followedBy_of_lastLiteral {e : Expr} (hwf : e.WellFormed) (hplain : e.isSpread = false)
    {rest : List Char} (hname : rest.head?.any Text.isIdentPart = false)
    (hlast : ∀ t ∈ e.lastLiteral?, EndsLiteral t rest) : e.FollowedBy rest := by
  induction e using Expr.induct with
  | ident path => exact hname
  | literal t => exact hlast t rfl
  | composite s => trivial
  | unary op e ih =>
    obtain ⟨hoperand, he⟩ := wellFormed_unary.1 hwf
    exact ih he hoperand hlast
  | call f args => trivial
  | spread e => cases hplain

/-- What a callee is followed by. -/
theorem followedBy_paren {f : Expr} {args : List Expr} (hwf : (call f args).WellFormed)
    (rest : List Char) : f.FollowedBy ('(' :: rest) := by
  obtain ⟨hplain, hclosed⟩ : f.isSpread = false ∧ f.endsOpen = false :=
    hwf _ (self_mem_parts _)
  refine followedBy_of_lastLiteral (hwf.of_subset (parts_subset_callee f args)) hplain
    (by simp; decide) fun t ht ↦ ?_
  rw [endsOpen, Option.mem_def.1 ht] at hclosed
  exact endsLiteral_of_closed hclosed (by decide) rest

/-- What an argument is followed by. -/
theorem followedBy_argument {a : Expr} (hwf : a.WellFormed)
    (hclosed : ∀ t, .literal t ∈ a.parts → isUnclosed t = false)
    (hspreads : ∀ x, .spread x ∈ a.parts → ∀ t ∈ x.lastLiteral?, isQuoted t = false →
      t.toList.getLast? ≠ some '.') {c : Char} (hc : c = ',' ∨ c = ')') (rest : List Char) :
    a.FollowedBy (c :: rest) := by
  by_cases hspread : a.isSpread = true
  · cases a with
    | spread x =>
      obtain ⟨hplain, hx⟩ := wellFormed_spread.1 hwf
      refine followedBy_of_lastLiteral hx hplain (by simp; decide) fun t ht ↦ ?_
      have hmem : .literal t ∈ (spread x).parts := parts_subset_spread x (literal_mem_parts ht)
      exact endsLiteral_points (hclosed t hmem) (hspreads x (self_mem_parts _) t ht) _
    | _ => cases hspread
  · rw [Bool.not_eq_true] at hspread
    have hname : Text.isIdentPart c = false ∧ drawnIntoNumber c = false := by
      rcases hc with rfl | rfl <;> decide
    refine followedBy_of_lastLiteral hwf hspread hname.1 fun t ht ↦ ?_
    exact endsLiteral_of_closed (hclosed t (literal_mem_parts ht)) hname.2 rest

/-- **At the end of a line only a raw string literal without its closing quote goes on.** -/
theorem followedBy_newline {e : Expr} (hwf : e.WellFormed) (hplain : e.isSpread = false)
    (hr : e.Reprintable) (rest : List Char) : e.FollowedBy ('\n' :: rest) := by
  refine followedBy_of_lastLiteral hwf hplain (by simp; decide) fun t ht ↦ ?_
  exact endsLiteral_newline (hr.raw t (literal_mem_parts ht)) rest

end Expr

/-! ### The start of an operand -/

/-- The characters, apart from letters and digits, that an operand without operators starts with. -/
def operandMarks : List Char := ['.', '"', '\x60', '\'', '[']

/-- An operand without operators starts with a letter, a digit or one of the marks. -/
def StartsOperand (c : Char) : Prop :=
  Text.isIdentStart c = true ∨ c.isDigit = true ∨ c ∈ operandMarks

/-- No operator goes on with the start of such an operand. -/
theorem UnaryOp.readsBefore_operand (op : UnaryOp) {c : Char} (hc : StartsOperand c) :
    op.kind.ReadsBefore (some c) := by
  have hcontinuations : ∀ d ∈ op.kind.continuations, d ∈ ['&', '^', '=', '-', '+'] := by
    cases op <;> decide
  have hnone : ∀ d ∈ ['&', '^', '=', '-', '+'],
      Text.isIdentStart d = false ∧ d.isDigit = false ∧ d ∉ operandMarks := by decide
  refine readsBefore_symbol op.kind_mem_symbols ?_ (by cases op <;> rfl)
  rintro d ⟨rfl⟩ hd
  obtain ⟨hletter, hdigit, hmark⟩ := hnone c (hcontinuations c hd)
  rcases hc with hc | hc | hc
  · rw [hletter] at hc
    cases hc
  · rw [hdigit] at hc
    cases hc
  · exact hmark hc

/-- **Two operators are read apart unless they fuse.** -/
theorem UnaryOp.readsBefore_kind {op op' : UnaryOp} (h : (op, op') ∉ fusing) :
    op.kind.ReadsBefore op'.text.toList.head? := by
  refine readsBefore_of_endsBefore ?_
  revert h
  cases op <;> cases op' <;> decide

namespace Expr

/-- Whether the expression is an operand without operators: neither spread nor under an operator. -/
def isOperand : Expr → Bool
  | .unary _ _ | .spread _ => false
  | _ => true

/-- What is called is an operand without operators. -/
theorem isOperand_callee {f : Expr} {args : List Expr} (hwf : (call f args).WellFormed)
    (hr : (call f args).Reprintable) : f.isOperand = true := by
  obtain ⟨hplain, -⟩ : f.isSpread = false ∧ f.endsOpen = false := hwf _ (self_mem_parts _)
  cases f with
  | unary op x => exact absurd (self_mem_parts _) (hr.callees op x args)
  | spread x => cases hplain
  | _ => rfl

/-- A path has a name at least. -/
theorem pathNames_ne_nil (path : String) : pathNames path ≠ [] := by
  rw [pathNames, ne_eq, List.map_eq_nil_iff]
  exact List.splitOn_ne_nil '.' path.toList

/-- An operand may start with a name. -/
theorem startsOperand_isName {n : String} (hn : IsName n) (more : List Char) :
    ∃ c, (n.toList ++ more).head? = some c ∧ StartsOperand c := by
  obtain ⟨c, cs, hcs, hc, -⟩ := hn.exists_cons
  exact ⟨c, by rw [hcs]; rfl, .inl hc⟩

/-- What the type of a composite literal starts with. -/
theorem startsOperand_composite {s : Shape} (hs : s.Proper) (hcomposite : s.isComposite = true)
    (more : List Char) :
    ∃ c, (s.text.toList ++ more).head? = some c ∧ StartsOperand c := by
  cases s with
  | primitive p => exact startsOperand_isName p.isName_text _
  | named q n =>
    obtain ⟨hq, hn⟩ := Shape.everywhere_named.1 hs
    cases q with
    | none => exact startsOperand_isName hn _
    | some q =>
      rw [Shape.text, String.toList_append, String.toList_append, List.append_assoc,
        List.append_assoc]
      exact startsOperand_isName (hq q rfl) _
  | slice s => exact ⟨'[', by simp [Shape.text], .inr (.inr (by decide))⟩
  | map k v => exact ⟨'m', by simp [Shape.text], .inl (by decide)⟩
  | context => exact ⟨'c', by simp [Shape.text], .inl (by decide)⟩
  | any => exact ⟨'i', by simp [Shape.text], .inl (by decide)⟩
  | emptyStruct => exact ⟨'s', by simp [Shape.text], .inl (by decide)⟩
  | pointer | function | channel => cases hcomposite

/-- What an operand without operators starts with. -/
theorem head?_text {e : Expr} (hwf : e.WellFormed) (hr : e.Reprintable)
    (hoperand : e.isOperand = true) : ∃ c, e.text.toList.head? = some c ∧ StartsOperand c := by
  induction e using Expr.induct with
  | ident path =>
    obtain ⟨n, names, hnames⟩ := List.exists_cons_of_ne_nil (pathNames_ne_nil path)
    have hn : IsName n := hwf _ (self_mem_parts _) n (by rw [hnames]; exact List.mem_cons_self ..)
    rw [← atomsText_atoms, atoms, hnames, pathAtoms, atomsText_token]
    exact startsOperand_isName hn _
  | literal t =>
    obtain ⟨rest, hreads⟩ : IsLiteral t := hwf _ (self_mem_parts _)
    obtain ⟨c, hc, hstart⟩ := hreads.head_literal (isLiteral_literalKind t)
    refine ⟨c, by rwa [text_literalKind] at hc, ?_⟩
    have hquotes : ∀ q ∈ quotes, q ∈ operandMarks := by decide
    rcases hstart with hdigit | rfl | hquote
    · exact .inr (.inl hdigit)
    · exact .inr (.inr (by decide))
    · exact .inr (.inr (hquotes c hquote))
  | composite s =>
    obtain ⟨hs, hcomposite⟩ : s.WellFormed ∧ s.isComposite = true := hwf _ (self_mem_parts _)
    rw [text, String.toList_append]
    exact startsOperand_composite hs.proper hcomposite _
  | call f args ih =>
    have hsub := parts_subset_callee f args
    obtain ⟨c, hc, hstart⟩ := ih (hwf.of_subset hsub) (hr.of_subset hsub) (isOperand_callee hwf hr)
    refine ⟨c, ?_, hstart⟩
    rw [text, String.toList_append, String.toList_append, String.toList_append, List.append_assoc,
      List.append_assoc, List.head?_append, hc]
    rfl
  | unary | spread => cases hoperand

/-- **An operator is read back in front of its operand.** -/
theorem exists_readsBefore_text {op : UnaryOp} {e : Expr} (hwf : (unary op e).WellFormed)
    (hr : (unary op e).Reprintable) :
    ∃ c, e.text.toList.head? = some c ∧ op.kind.ReadsBefore (some c) := by
  obtain ⟨hplain, he⟩ := wellFormed_unary.1 hwf
  by_cases hoperand : e.isOperand = true
  · obtain ⟨c, hc, hstart⟩ := head?_text he (hr.of_subset (parts_subset_unary op e)) hoperand
    exact ⟨c, hc, op.readsBefore_operand hstart⟩
  · obtain ⟨op', x, rfl⟩ : ∃ op' x, e = unary op' x := by
      cases e with
      | unary op' x => exact ⟨op', x, rfl⟩
      | spread x => cases hplain
      | _ => exact absurd rfl hoperand
    have hread := UnaryOp.readsBefore_kind (hr.operators op op' x (self_mem_parts _))
    obtain ⟨c, cs, hc⟩ := List.exists_cons_of_ne_nil
      (text_ne_nil_of_mem_symbols op'.kind_mem_symbols)
    rw [UnaryOp.text_kind] at hc
    refine ⟨c, ?_, ?_⟩
    · rw [text, String.toList_append, hc]
      rfl
    · rwa [hc] at hread

end Expr

/-! ### Reading back -/

/-- The names of a path are read back. -/
theorem spelled_pathAtoms {names : List String} (h : ∀ n ∈ names, IsName n) {next : Option Char}
    (hnext : next.any Text.isIdentPart = false) : Spelled (pathAtoms names) next := by
  cases names with
  | nil => trivial
  | cons n names =>
    induction names generalizing n with
    | nil => exact ⟨(h n (by simp)).readsBefore hnext, trivial⟩
    | cons m names ih =>
      obtain ⟨hn, hnames⟩ := List.forall_mem_cons.1 h
      have hm : IsName m := hnames m (List.mem_cons_self ..)
      obtain ⟨c, hc, hi⟩ := firstChar_ident hm (selectorAtoms names) next
      have hrest : Spelled (.token (.ident m) :: selectorAtoms names) next := ih m hnames
      refine ⟨hn.readsBefore (not_isIdentPart_firstChar (by decide) _ next), ?_, hrest⟩
      show Kind.dot.ReadsBefore (firstChar (.token (.ident m) :: selectorAtoms names) next)
      rw [hc]
      exact readsBefore_of_isIdentStart (by decide) hi

/-- Items that are read back in front of commas and a closing parenthesis. -/
theorem spelledAt_commaAtoms {xss : List (List Atom)}
    (h : ∀ xs ∈ xss, ∀ c, c = ',' ∨ c = ')' → ∀ more, SpelledAt xs (c :: more)) (rest : List Char) :
    SpelledAt (commaAtoms xss) (')' :: rest) := by
  induction xss with
  | nil => trivial
  | cons xs xss ih =>
    obtain ⟨hxs, hxss⟩ := List.forall_mem_cons.1 h
    cases xss with
    | nil =>
      rw [commaAtoms_singleton]
      exact hxs ')' (.inr rfl) rest
    | cons ys xss =>
      rw [commaAtoms_cons_cons, spelledAt_append]
      refine ⟨hxs ',' (.inl rfl) _, ?_, .inl rfl, ih hxss⟩
      exact readsBefore_of_isLoose (by decide) _ _ rfl

/-- **The tokens of a written expression are read back** in front of a text that does not draw the
last one further. -/
theorem Expr.spelledAt_atoms {e : Expr} (hwf : e.WellFormed) (hr : e.Reprintable)
    {rest : List Char} (hrest : e.FollowedBy rest) : SpelledAt e.atoms rest := by
  induction e using Expr.induct generalizing rest with
  | ident path =>
    have hnames : ∀ n ∈ pathNames path, IsName n := hwf _ (self_mem_parts _)
    exact (spelled_pathAtoms hnames hrest).spelledAt
  | literal t =>
    obtain ⟨rest₀, hreads⟩ : IsLiteral t := hwf _ (self_mem_parts _)
    refine ⟨hreads.again (isLiteral_literalKind t) ?_, trivial⟩
    rw [text_literalKind]
    exact hrest
  | composite s =>
    obtain ⟨hs, -⟩ : s.WellFormed ∧ s.isComposite = true := hwf _ (self_mem_parts _)
    have hbraces := isLoose_bracket .brace
    refine (spelledAt_append ..).2 ⟨(Shape.phrase_atoms hs.proper).spelledAt (by decide) _, ?_, ?_,
      trivial⟩
    · exact readsBefore_of_isLoose hbraces.1 _ _ rfl
    · exact readsBefore_of_isLoose hbraces.2 _ _ rfl
  | unary op e ih =>
    have hsub := parts_subset_unary op e
    have hoperand := ih (hwf.of_subset hsub) (hr.of_subset hsub) hrest
    obtain ⟨c, hc, hread⟩ := exists_readsBefore_text hwf hr
    refine ⟨hread _ ?_, hoperand⟩
    rw [atomsText_atoms, List.head?_append, hc]
    rfl
  | call f args ihf ihargs =>
    have hparens := isLoose_bracket .paren
    have hsub := parts_subset_callee f args
    have hcallee := fun more ↦ ihf (hwf.of_subset hsub) (hr.of_subset hsub)
      (followedBy_paren hwf more)
    have hargs : ∀ xs ∈ args.map atoms, ∀ c, c = ',' ∨ c = ')' →
        ∀ more, SpelledAt xs (c :: more) := by
      intro xs hxs c hc more
      obtain ⟨a, ha, rfl⟩ := List.mem_map.1 hxs
      have hsub := parts_subset_arg f ha
      refine ihargs a ha (hwf.of_subset hsub) (hr.of_subset hsub) ?_
      exact followedBy_argument (hwf.of_subset hsub)
        (hr.arguments f args (self_mem_parts _) a ha) (hr.of_subset hsub).spreads hc more
    rw [atoms, atomsOfArgs_eq_map]
    refine (spelledAt_append ..).2 ⟨hcallee _, ?_, (spelledAt_append ..).2 ⟨?_, ?_, trivial⟩⟩
    · exact readsBefore_of_isLoose hparens.1 _ _ rfl
    · exact spelledAt_commaAtoms hargs rest
    · exact readsBefore_of_isLoose hparens.2 _ _ rfl
  | spread e ih =>
    have hsub := parts_subset_spread e
    refine (spelledAt_append ..).2 ⟨ih (hwf.of_subset hsub) (hr.of_subset hsub) hrest, ?_, trivial⟩
    exact readsBefore_of_isLoose (by decide) _ _ rfl

end GoDecorator
