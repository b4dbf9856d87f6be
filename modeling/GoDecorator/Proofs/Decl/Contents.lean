import GoDecorator.Proofs.Decl.Legibility

/-!
# What a function body keeps of its tokens

The parser for function bodies does four things in one pass: it counts brackets to find the closing
brace, breaks the tokens into lines, remembers where something stands between two tokens of a line,
and settles the blank lines. **Nothing of the tokens is lost on the way** (`block_captured`). The
body ends at the first closing brace where no bracket is open; the lines break at the line breaks
and nowhere else; and only blank lines go, those at the ends and all but one of each stretch.

## How it is stated

The claim is about tokens with their places, and uses none of the counters that the parser keeps:

* `Line.Shows` says what a line has to do with the tokens it is made of. A token is set apart if it
  does not start where the token before it on the line ends;
* the stretches are those between line breaks (`List.splitOnP`);
* `Block.IsTidy` says what is left of the blank lines, and that settling them once more changes
  nothing;
* `openers` and `closers` count brackets in a list of kinds.

The brackets are only counted. A body may well close a parenthesis with a square bracket, so what is
claimed of them is a matter of numbers: `openers` and `closers` count all three kinds together.

`exists_of_bodyLines` is the induction on the tokens. Everything about blank lines is proved of
`Block.ofLines` by itself, and the count of the parser is taken from what is known of legible
bodies.
-/

namespace GoDecorator

open Token

/-! ### Brackets -/

/-- The number of tokens that open a bracket. -/
def openers (ks : List Kind) : Nat := ks.countP Kind.isOpening

/-- The number of tokens that close a bracket. -/
def closers (ks : List Kind) : Nat := ks.countP Kind.isClosing

/-- Brackets are closed after they are opened, and each of them is. -/
structure Balanced (ks : List Kind) : Prop where
  /-- No more of them are closed than opened before. -/
  within : ∀ ls, ls <+: ks → closers ls ≤ openers ls
  /-- As many are closed as are opened. -/
  whole : openers ks = closers ks

theorem Token.Kind.isOpening_of_isClosing {k : Kind} (h : k.isClosing = true) :
    k.isOpening = false := by
  cases k <;> simp_all [isOpening, isClosing]

theorem openers_cons (k : Kind) (ks : List Kind) :
    openers (k :: ks) = openers ks + if k.isOpening then 1 else 0 := List.countP_cons

theorem closers_cons (k : Kind) (ks : List Kind) :
    closers (k :: ks) = closers ks + if k.isClosing then 1 else 0 := List.countP_cons

/-- The depth is the number of brackets that were opened less that of those that were closed. -/
theorem add_openers_of_depthAfter {depth d : Nat} {ks : List Kind}
    (h : depthAfter depth ks = some d) : depth + openers ks = d + closers ks := by
  induction ks generalizing depth with
  | nil =>
    obtain rfl : depth = d := Option.some.inj h
    rfl
  | cons k ks ih =>
    cases k with
    | opening b =>
      have hrest : depth + 1 + openers ks = d + closers ks := ih h
      simp only [openers_cons, closers_cons, Kind.isOpening, Kind.isClosing, if_true,
        Bool.false_eq_true, if_false]
      omega
    | closing b =>
      cases depth with
      | zero => cases h
      | succ depth =>
        have hrest : depth + openers ks = d + closers ks := ih h
        simp only [openers_cons, closers_cons, Kind.isOpening, Kind.isClosing, if_true,
          Bool.false_eq_true, if_false]
        omega
    | _ => exact ih h

/-- Brackets that match are balanced: in each front part the number of open ones is not negative. -/
theorem balanced_of_depthAfter {ks : List Kind} (h : depthAfter 0 ks = some 0) : Balanced ks := by
  refine ⟨fun ls hls ↦ ?_, ?_⟩
  · obtain ⟨ms, rfl⟩ := hls
    rw [depthAfter_append] at h
    obtain ⟨d, hd, -⟩ := Option.bind_eq_some_iff.1 h
    have hcount := add_openers_of_depthAfter hd
    omega
  · have hcount := add_openers_of_depthAfter h
    omega

/-- Where a bracket is closed, one is open. -/
theorem Balanced.closers_lt_openers {ks ls : List Kind} {k : Kind} (h : Balanced ks)
    (hls : ls ++ [k] <+: ks) (hk : k.isClosing = true) : closers ls < openers ls := by
  have hle := h.within _ hls
  have hopen := Kind.isOpening_of_isClosing hk
  simp only [openers, closers, List.countP_append, List.countP_singleton, hk, hopen, if_true,
    Bool.false_eq_true, if_false] at hle ⊢
  omega

/-! ### Lines -/

/-- The line that tokens make after the token with the given span, if there is one. -/
def lineAfter (previous : Option Span) (ts : List Token) : Line :=
  List.zipWith BodyToken.ofToken (previous :: ts.map fun t ↦ some t.span) ts

/-- **The line shows the tokens**: what they are, and in front of which of them something stands. -/
structure Line.Shows (l : Line) (ts : List Token) : Prop where
  /-- They are of the same kinds. -/
  kinds : l.map BodyToken.kind = ts.map Token.kind
  /-- A token is set apart if it does not start where the token before it on the line ends. -/
  spaced : ∀ i b t, l[i]? = some b → ts[i]? = some t →
    (b.spaced = true ↔ ∃ j p, i = j + 1 ∧ ts[j]? = some p ∧ t.span.start ≠ p.span.stop)

theorem map_kind_lineAfter (previous : Option Span) (ts : List Token) :
    (lineAfter previous ts).map BodyToken.kind = ts.map Token.kind := by
  induction ts generalizing previous with
  | nil => rfl
  | cons t ts ih => exact congrArg (List.cons t.kind) (ih (some t.span))

/-- The line that is made of tokens shows them. -/
theorem shows_lineAfter (ts : List Token) : Line.Shows (lineAfter none ts) ts := by
  refine ⟨map_kind_lineAfter none ts, fun i b t hb ht ↦ ?_⟩
  obtain ⟨p, t', hp, ht', rfl⟩ := List.getElem?_zipWith_eq_some.1 hb
  obtain rfl : t = t' := Option.some.inj (ht.symm.trans ht')
  cases i with
  | zero =>
    obtain rfl : none = p := Option.some.inj hp
    simp [BodyToken.ofToken]
  | succ j =>
    rw [List.getElem?_cons_succ, List.getElem?_map] at hp
    obtain ⟨q, hq, rfl⟩ := Option.map_eq_some_iff.1 hp
    simp [BodyToken.ofToken, Span.touches, hq, ne_comm]

/-- Whether the token is a line break. -/
def Token.isNewline (t : Token) : Bool := t.kind == .newline

theorem Token.isNewline_iff {t : Token} : t.isNewline = true ↔ t.kind = .newline := beq_iff_eq

/-- **What is read of a body**: the tokens up to its closing brace, broken into lines at the line
breaks. The first line goes on from the token before it. -/
theorem exists_of_bodyLines {opening : Span} {previous : Option Span} {depth : Nat}
    {ts rest : List Token} {line : Line} {lines : List Line}
    (h : bodyLines opening previous depth ts = .ok (line, lines, rest)) :
    ∃ inner c us uss, ts = inner ++ c :: rest ∧ c.kind = .closing .brace ∧
      (line ++ lines.flatten).map BodyToken.kind = (inner.map Token.kind).filter (· ≠ .newline) ∧
      inner.splitOnP Token.isNewline = us :: uss ∧ line = lineAfter previous us ∧
      lines = uss.map (lineAfter none) := by
  induction ts generalizing previous depth line lines with
  | nil => cases h
  | cons t ts ih =>
    rcases bodyLines_cases h with ⟨hkind, rfl, l, ls, rfl, hrest⟩ | ⟨hkind, rfl, rfl, rfl, rfl⟩ |
      ⟨depth', line', hnewline, -, -, rfl, hrest⟩
    · -- a line break ends the line
      obtain ⟨inner, c, us, uss, rfl, hc, hkinds, hsplit, rfl, rfl⟩ := ih hrest
      refine ⟨t :: inner, c, [], us :: uss, rfl, hc, ?_, ?_, rfl, rfl⟩
      · rw [List.map_cons, hkind, List.filter_cons_of_neg (by simp), ← hkinds]
        rfl
      · rw [List.splitOnP_cons_eq_if_modifyHead, if_pos (isNewline_iff.2 hkind), hsplit]
    · -- the closing brace
      exact ⟨[], t, [], [], rfl, hkind, rfl, rfl, rfl, rfl⟩
    · -- any other token goes in front of the rest of its line
      obtain ⟨inner, c, us, uss, rfl, hc, hkinds, hsplit, rfl, rfl⟩ := ih hrest
      refine ⟨t :: inner, c, t :: us, uss, rfl, hc, ?_, ?_, rfl, rfl⟩
      · rw [List.map_cons, List.filter_cons_of_pos (by simpa using hnewline), ← hkinds]
        rfl
      · rw [List.splitOnP_cons_eq_if_modifyHead, if_neg (mt isNewline_iff.1 hnewline), hsplit]
        rfl

/-! ### Blank lines -/

namespace Block

/-- **There are no blank lines but single ones between others.** -/
structure IsTidy (b : Block) : Prop where
  /-- The first line is not blank. -/
  first : [] ∉ b.lines.head?
  /-- Neither is the last one. -/
  last : [] ∉ b.lines.getLast?
  /-- Of two lines in a row one is not blank. -/
  single : b.lines.IsChain fun l m ↦ l ≠ [] ∨ m ≠ []
  /-- Settling the blank lines again changes nothing. -/
  settled : ofLines b.lines = b

/-- Lines that are not blank are kept in order. -/
theorem filter_settle (gap : Bool) (lines : List Line) :
    (settle gap lines).filter (· ≠ []) = lines.filter (· ≠ []) := by
  fun_induction settle gap lines with
  | case1 => rfl
  | case2 gap line lines hempty ih =>
    rw [ih, List.filter_cons_of_neg (by simpa using hempty)]
  | case3 line lines hline ih =>
    rw [List.filter_cons_of_neg (by simp), List.filter_cons_of_pos (by simpa using hline),
      List.filter_cons_of_pos (by simpa using hline), ih]
  | case4 gap line lines hline hgap ih =>
    rw [List.filter_cons_of_pos (by simpa using hline),
      List.filter_cons_of_pos (by simpa using hline), ih]

theorem nil_not_mem_getLast?_cons {line : Line} {lines : List Line} (hline : line ≠ [])
    (h : [] ∉ lines.getLast?) : [] ∉ (line :: lines).getLast? := by
  cases lines with
  | nil => simpa using hline
  | cons l ls => rwa [List.getLast?_cons_cons]

/-- A line that is not blank comes last. -/
theorem nil_not_mem_getLast?_settle (gap : Bool) (lines : List Line) :
    [] ∉ (settle gap lines).getLast? := by
  fun_induction settle gap lines with
  | case1 => simp
  | case2 gap line lines hempty ih => exact ih
  | case3 line lines hline ih =>
    rw [List.getLast?_cons_cons]
    exact nil_not_mem_getLast?_cons (by simpa using hline) ih
  | case4 gap line lines hline hgap ih => exact nil_not_mem_getLast?_cons (by simpa using hline) ih

/-- There is a blank line only in front of one that is not blank. -/
theorem isChain_settle (gap : Bool) (lines : List Line) :
    (settle gap lines).IsChain fun l m ↦ l ≠ [] ∨ m ≠ [] := by
  fun_induction settle gap lines with
  | case1 => exact .nil
  | case2 gap line lines hempty ih => exact ih
  | case3 line lines hline ih =>
    have hne : line ≠ [] := by simpa using hline
    exact List.isChain_cons_cons.2 ⟨.inr hne, List.isChain_cons.2 ⟨fun _ _ ↦ .inl hne, ih⟩⟩
  | case4 gap line lines hline hgap ih =>
    have hne : line ≠ [] := by simpa using hline
    exact List.isChain_cons.2 ⟨fun _ _ ↦ .inl hne, ih⟩

/-- Lines that are settled stay as they are. -/
theorem settle_self (gap : Bool) (lines : List Line) :
    settle false (settle gap lines) = settle gap lines := by
  fun_induction settle gap lines with
  | case1 => rfl
  | case2 gap line lines hempty ih => exact ih
  | case3 line lines hline ih =>
    show settle true (line :: settle false lines) = _
    rw [settle, if_neg hline, if_pos rfl, ih]
  | case4 gap line lines hline hgap ih => rw [settle, if_neg hline, if_neg (by simp), ih]

/-- The first line that is not blank comes first. -/
theorem ofLines_cases (lines : List Line) :
    (ofLines lines).lines = [] ∨
      ∃ line rest, line ≠ [] ∧ (ofLines lines).lines = line :: settle false rest := by
  cases hdrop : lines.dropWhile List.isEmpty with
  | nil => exact .inl (by rw [ofLines, hdrop]; rfl)
  | cons line rest =>
    have hhead := List.head_dropWhile_not List.isEmpty (l := lines) (by simp [hdrop])
    have hline : line.isEmpty = false := by simpa [hdrop] using hhead
    refine .inr ⟨line, rest, by simpa using hline, ?_⟩
    simp [ofLines, hdrop, settle, hline]

/-- **The blank lines of a body are settled.** -/
theorem isTidy_ofLines (lines : List Line) : (ofLines lines).IsTidy where
  first := by
    rcases ofLines_cases lines with hnone | ⟨line, rest, hline, hlines⟩
    · simp [hnone]
    · simpa [hlines] using hline
  last := nil_not_mem_getLast?_settle _ _
  single := isChain_settle _ _
  settled := by
    have hkeep : (ofLines lines).lines.dropWhile List.isEmpty = (ofLines lines).lines := by
      rcases ofLines_cases lines with hnone | ⟨line, rest, hline, hlines⟩
      · rw [hnone]
        rfl
      · rw [hlines, List.dropWhile_cons_of_neg (by simpa using hline)]
    rw [ofLines, hkeep]
    exact congrArg Block.mk (settle_self false _)

/-- The lines that are not blank are those of the body. -/
theorem filter_ofLines (lines : List Line) :
    (ofLines lines).lines.filter (· ≠ []) = lines.filter (· ≠ []) := by
  rw [ofLines, filter_settle]
  induction lines with
  | nil => rfl
  | cons line lines ih =>
    cases line with
    | nil => exact ih
    | cons t line => rfl

end Block

/-! ### Bodies -/

/-- A body is read from its opening brace on. -/
theorem exists_bodyLines_of_block {ts rest : List Token} {b : Block}
    (h : Parser.block.run ts = .ok (b, rest)) :
    ∃ o us line lines, ts = o :: us ∧ o.kind = .opening .brace ∧
      bodyLines o.span none 0 us = .ok (line, lines, rest) ∧ b = .ofLines (line :: lines) := by
  obtain ⟨span, _, hhere, h⟩ := Parser.exists_run_of_bind h
  obtain ⟨rfl, rfl⟩ := Prod.mk.inj (Except.ok.inj hhere)
  obtain ⟨_, us, hexpect, h⟩ := Parser.exists_run_of_bind h
  obtain ⟨o, rfl, ho⟩ := Parser.exists_cons_of_expect (by decide) hexpect
  cases hbody : bodyLines o.span none 0 us with
  | error e => simp [hbody] at h
  | ok r =>
    obtain ⟨rfl, rfl⟩ : Block.ofLines (r.1 :: r.2.1) = b ∧ r.2.2 = rest := by simpa [hbody] using h
    exact ⟨o, us, r.1, r.2.1, rfl, ho, hbody, rfl⟩

/-- **A function body is kept without loss.** It is read from the tokens between its opening brace
and the first closing brace where no bracket is open. Each stretch between two line breaks makes a
line; of these lines the body keeps all that are not blank, with their order and contents, and only
settles the blank ones. -/
theorem block_captured {ts rest : List Token} {b : Block}
    (h : Parser.block.run ts = .ok (b, rest)) :
    ∃ o inner c lines, ts = o :: (inner ++ c :: rest) ∧ o.kind = .opening .brace ∧
      c.kind = .closing .brace ∧ openers (inner.map kind) = closers (inner.map kind) ∧
      (∀ front t back, inner = front ++ t :: back → t.kind = .closing .brace →
        closers (front.map kind) < openers (front.map kind)) ∧
      List.Forall₂ Line.Shows lines (inner.splitOnP Token.isNewline) ∧ b = .ofLines lines ∧
      b.lines.filter (· ≠ []) = lines.filter (· ≠ []) ∧
      b.lines.flatten.map BodyToken.kind = (inner.map kind).filter (· ≠ .newline) ∧
      b.IsTidy ∧ Balanced (b.lines.flatten.map BodyToken.kind) := by
  obtain ⟨o, us, line, lines, rfl, ho, hbody, rfl⟩ := exists_bodyLines_of_block h
  obtain ⟨inner, c, vs, vss, rfl, hc, hkinds, hsplit, rfl, rfl⟩ := exists_of_bodyLines hbody
  have hflatten : (Block.ofLines (lineAfter none vs :: vss.map (lineAfter none))).lines.flatten.map
      BodyToken.kind = (inner.map kind).filter (· ≠ .newline) := by
    rw [Block.flatten_ofLines, List.flatten_cons, hkinds]
  have hdepth := depthAfter_of_bodyLines hbody
  have hbody := balanced_of_depthAfter hdepth
  rw [hkinds, depthAfter_filter] at hdepth
  have hinner := balanced_of_depthAfter hdepth
  refine ⟨o, inner, c, (vs :: vss).map (lineAfter none), rfl, ho, hc, hinner.whole, ?_, ?_, rfl,
    Block.filter_ofLines _, hflatten, Block.isTidy_ofLines _, ?_⟩
  · rintro front t back rfl ht
    refine hinner.closers_lt_openers (k := t.kind) ⟨back.map kind, by simp⟩ ?_
    rw [ht]
    rfl
  · rw [hsplit, List.forall₂_map_left_iff]
    exact List.forall₂_same.2 fun us _ ↦ shows_lineAfter us
  · rwa [hflatten, ← hkinds]

/-- A body with blank lines and with brackets of different kinds, in front of other tokens. -/
theorem block_captured_mixed :
    ∃ b rest, Parser.block.run [⟨.opening .brace, ⟨0, 1, 1⟩⟩, ⟨.ident "f", ⟨1, 2, 1⟩⟩,
        ⟨.opening .paren, ⟨3, 4, 1⟩⟩, ⟨.newline, ⟨4, 5, 1⟩⟩, ⟨.newline, ⟨5, 6, 2⟩⟩,
        ⟨.newline, ⟨6, 7, 3⟩⟩, ⟨.closing .square, ⟨9, 10, 4⟩⟩, ⟨.closing .brace, ⟨10, 11, 4⟩⟩,
        ⟨.closing .brace, ⟨11, 12, 4⟩⟩, ⟨.eof, ⟨12, 12, 4⟩⟩] = .ok (b, rest) ∧
      b.lines = [[⟨.ident "f", false⟩, ⟨.opening .paren, true⟩], [], [⟨.closing .square, false⟩]] ∧
      b.IsTidy ∧ Balanced (b.lines.flatten.map BodyToken.kind) := by
  have hrun : Parser.block.run [⟨.opening .brace, ⟨0, 1, 1⟩⟩, ⟨.ident "f", ⟨1, 2, 1⟩⟩,
      ⟨.opening .paren, ⟨3, 4, 1⟩⟩, ⟨.newline, ⟨4, 5, 1⟩⟩, ⟨.newline, ⟨5, 6, 2⟩⟩,
      ⟨.newline, ⟨6, 7, 3⟩⟩, ⟨.closing .square, ⟨9, 10, 4⟩⟩, ⟨.closing .brace, ⟨10, 11, 4⟩⟩,
      ⟨.closing .brace, ⟨11, 12, 4⟩⟩, ⟨.eof, ⟨12, 12, 4⟩⟩] =
      .ok (⟨[[⟨.ident "f", false⟩, ⟨.opening .paren, true⟩], [], [⟨.closing .square, false⟩]]⟩,
        [⟨.closing .brace, ⟨11, 12, 4⟩⟩, ⟨.eof, ⟨12, 12, 4⟩⟩]) := by
    decide
  obtain ⟨_, _, _, _, -, -, -, -, -, -, -, -, -, htidy, hbalanced⟩ := block_captured hrun
  exact ⟨_, _, hrun, rfl, htidy, hbalanced⟩

end GoDecorator
