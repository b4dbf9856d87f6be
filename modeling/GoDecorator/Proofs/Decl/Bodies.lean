import Mathlib.Data.List.Chain
import GoDecorator.Decl.Parser
import GoDecorator.Proofs.Token.Phrases

/-!
# Reading function bodies

A function body is kept as lines of tokens, each token with a flag for whether something stands
between it and the token before it. What the lines are depends on the atoms of the text alone, not
on where in the source they stand: `splitLines` computes them, and `bodyLines_place` says that **the
parser for bodies finds these lines**, provided that the brackets match.

The parser compares places, and `splitLines` only looks whether a blank comes between. `Precedes` is
the invariant that ties the two together: what the parser remembers of the token before, and what
the atoms have shown since.

## Bodies that can be printed again

`Body` collects what is needed of the atoms so that the body can be printed and read again. Of the
lines that come out, each is a `Line.Sound` one (`Body.sound_splitLines`): tokens that touch are
read back one after the other, and a colon touches the token before it and not the one after it. The
condition on colons is there because a line of the form `key: value,` is taken apart at its colon
when it is printed. `tightFrom` decides it on the atoms, and `Joins` is what is known at the seam
when the atoms are cut into lines (`isChain_splitLines`).

Blank lines are settled when a body is read. The text of a body stands between two line breaks,
which would be blank lines at its ends; settling takes them away again (`Block.ofLines_framed`).
-/

namespace GoDecorator

open Token

/-! ### The lines of a stretch of atoms -/

/-- The lines of atoms: the rest of the current line, and the lines after it. `gap` says what stands
before the atoms on their line: nothing, a token, or a token and blanks after it. -/
def splitLines : Option Bool → List Atom → Line × List Line
  | _, [] => ([], [])
  | gap, .blank _ :: as => splitLines (gap.map fun _ ↦ true) as
  | gap, .token k :: as =>
    if k = .newline then ([], (splitLines none as).1 :: (splitLines none as).2)
    else (⟨k, gap.getD false⟩ :: (splitLines (some false) as).1, (splitLines (some false) as).2)

@[simp] theorem splitLines_nil (gap : Option Bool) : splitLines gap [] = ([], []) := by
  cases gap <;> rfl

@[simp] theorem splitLines_blank (gap : Option Bool) (c : Char) (as : List Atom) :
    splitLines gap (.blank c :: as) = splitLines (gap.map fun _ ↦ true) as := by
  rw [splitLines]

@[simp] theorem splitLines_newline (gap : Option Bool) (as : List Atom) :
    splitLines gap (.token .newline :: as) =
      ([], (splitLines none as).1 :: (splitLines none as).2) := by
  rw [splitLines, if_pos rfl]

/-- A token goes on the current line. -/
theorem splitLines_token {k : Kind} (hk : k ≠ .newline) (gap : Option Bool) (as : List Atom) :
    splitLines gap (.token k :: as) =
      (⟨k, gap.getD false⟩ :: (splitLines (some false) as).1, (splitLines (some false) as).2) := by
  rw [splitLines, if_neg hk]

/-- What stands before an offset on its line: `previous` is the last token, and `gap` says whether
blanks come after it. -/
def Precedes (previous : Option Span) (gap : Option Bool) (offset : Nat) : Prop :=
  match previous, gap with
  | none, none => True
  | some p, some false => p.stop = offset
  | some p, some true => p.stop < offset
  | _, _ => False

/-- After a blank, the next token is set apart. -/
theorem Precedes.blank {previous : Option Span} {gap : Option Bool} {offset : Nat}
    (h : Precedes previous gap offset) : Precedes previous (gap.map fun _ ↦ true) (offset + 1) := by
  rcases previous with _ | p <;> rcases gap with _ | _ | _
  · trivial
  · exact h.elim
  · exact h.elim
  · exact h.elim
  · show p.stop < offset + 1
    have hstop : p.stop = offset := h
    omega
  · show p.stop < offset + 1
    have hstop : p.stop < offset := h
    omega

/-- The flag of a token is the one that `splitLines` gives it. -/
theorem Precedes.ofToken {previous : Option Span} {gap : Option Bool} {offset : Nat}
    (h : Precedes previous gap offset) (k : Kind) (stop line : Nat) :
    BodyToken.ofToken previous ⟨k, ⟨offset, stop, line⟩⟩ = ⟨k, gap.getD false⟩ := by
  rcases previous with _ | p <;> rcases gap with _ | _ | _
  · rfl
  · exact h.elim
  · exact h.elim
  · exact h.elim
  · have hstop : p.stop = offset := h
    simp [BodyToken.ofToken, Span.touches, hstop]
  · have hstop : p.stop < offset := h
    have hne : p.stop ≠ offset := by omega
    simp [BodyToken.ofToken, Span.touches, hne]

section BodyLines

variable {opening : Span} {previous : Option Span} {depth : Nat} {t : Token} {ts rest : List Token}
  {line : Line} {lines : List Line}

theorem bodyLines_newline (ht : t.kind = .newline)
    (h : bodyLines opening none depth ts = .ok (line, lines, rest)) :
    bodyLines opening previous depth (t :: ts) = .ok ([], line :: lines, rest) := by
  rw [bodyLines, ht, h]
  rfl

theorem bodyLines_opening {b : Bracket} (ht : t.kind = .opening b)
    (h : bodyLines opening (some t.span) (depth + 1) ts = .ok (line, lines, rest)) :
    bodyLines opening previous depth (t :: ts) =
      .ok (.ofToken previous t :: line, lines, rest) := by
  rw [bodyLines, ht]
  simp only [h]
  rfl

theorem bodyLines_closing {b : Bracket} (ht : t.kind = .closing b)
    (h : bodyLines opening (some t.span) depth ts = .ok (line, lines, rest)) :
    bodyLines opening previous (depth + 1) (t :: ts) =
      .ok (.ofToken previous t :: line, lines, rest) := by
  rw [bodyLines, ht]
  simp only [h]
  rfl

/-- A token that is no bracket goes on the current line. -/
theorem bodyLines_neutral (hn : t.kind ≠ .newline) (ho : t.kind.isOpening = false)
    (hc : t.kind.isClosing = false) (he : t.kind ≠ .eof)
    (h : bodyLines opening (some t.span) depth ts = .ok (line, lines, rest)) :
    bodyLines opening previous depth (t :: ts) =
      .ok (.ofToken previous t :: line, lines, rest) := by
  rw [bodyLines]
  split
  · exact absurd ‹_› he
  · exact absurd ‹_› hn
  · rename_i heq
    rw [heq] at hc
    cases hc
  · rename_i heq
    rw [heq] at ho
    cases ho
  · simp only [h]
    rfl

/-- **The parser for bodies finds the lines of the atoms.** -/
theorem bodyLines_place {as : List Atom} {gap : Option Bool} {offset lineNumber : Nat}
    (hprev : Precedes previous gap offset) (hdepth : depthAfter depth (kinds as) = some 0)
    (heof : ∀ k ∈ kinds as, k ≠ .eof) (ht : t.kind = .closing .brace) :
    bodyLines opening previous depth (place offset lineNumber as ++ t :: rest) =
      .ok ((splitLines gap as).1, (splitLines gap as).2, rest) := by
  induction as generalizing previous gap offset lineNumber depth with
  | nil =>
    obtain rfl : depth = 0 := Option.some.inj hdepth
    rw [place, List.nil_append, bodyLines, ht, splitLines_nil]
    rfl
  | cons a as ih =>
    cases a with
    | blank c =>
      rw [place, splitLines_blank]
      exact ih hprev.blank hdepth heof
    | token k =>
      have heof' : ∀ l ∈ kinds as, l ≠ .eof := fun l hl ↦ heof l (List.mem_cons_of_mem _ hl)
      have hself : ∀ stop : Nat, Precedes (some ⟨offset, stop, lineNumber⟩) (some false) stop :=
        fun _ ↦ rfl
      rw [kinds_token] at hdepth
      rw [place, List.cons_append]
      by_cases hn : k = .newline
      · subst hn
        rw [splitLines_newline]
        exact bodyLines_newline rfl (ih trivial hdepth heof')
      rw [splitLines_token hn, ← hprev.ofToken]
      cases k with
      | opening b => exact bodyLines_opening rfl (ih (hself _) hdepth heof')
      | closing b =>
        cases depth with
        | zero => cases hdepth
        | succ depth => exact bodyLines_closing rfl (ih (hself _) hdepth heof')
      | _ =>
        refine bodyLines_neutral hn rfl rfl (heof _ (List.mem_cons_self ..)) ?_
        exact ih (hself _) hdepth heof'

end BodyLines

/-! ### Lines that can be printed and read again -/

/-- Two tokens that stand next to each other on a line. -/
structure Neighbours (t u : BodyToken) : Prop where
  /-- If they touch, the first is read back in front of the second. -/
  reads : u.spaced = false → t.kind.ReadsBefore u.kind.text.toList.head?
  /-- A colon touches the token before it. -/
  colon : u.kind = .colon → u.spaced = false
  /-- A colon does not touch the token after it. -/
  value : t.kind = .colon → u.spaced = true

/-- **A line that is read back as it is printed.** -/
structure Line.Sound (line : Line) : Prop where
  /-- The first token has nothing before it. -/
  first : ∀ t ∈ line.head?, t.spaced = false
  /-- Each token may be set apart from the one after it. -/
  closed : ∀ t ∈ line, t.kind.Closed ∧ t.kind ≠ .newline ∧ t.kind ≠ .eof
  /-- Neighbours fit together. -/
  chain : line.IsChain Neighbours

theorem Line.sound_nil : Line.Sound [] := ⟨by simp, by simp, .nil⟩

/-- Whether every colon touches the token before it and not the one after it. `colon` says whether
a colon stands right before the atoms, and `touching` whether any token does. -/
def tightFrom (colon touching : Bool) : List Atom → Bool
  | [] => true
  | .blank _ :: as => tightFrom false false as
  | .token k :: as =>
    if k = .newline then tightFrom false false as
    else !colon && (k != .colon || touching) && tightFrom (k == .colon) true as

theorem tightFrom_newline (colon touching : Bool) (as : List Atom) :
    tightFrom colon touching (.token .newline :: as) = tightFrom false false as := by
  rw [tightFrom, if_pos rfl]

theorem tightFrom_token {k : Kind} (hk : k ≠ .newline) (colon touching : Bool) (as : List Atom) :
    tightFrom colon touching (.token k :: as) = true ↔
      colon = false ∧ (k = .colon → touching = true) ∧ tightFrom (k == .colon) true as = true := by
  rw [tightFrom, if_neg hk]
  by_cases hc : k = .colon <;> simp [hc, and_assoc]

/-- The condition on a colon is the weaker, the more is known to touch it. -/
theorem tightFrom_touching {colon : Bool} {as : List Atom} (h : tightFrom colon false as = true)
    (touching : Bool) : tightFrom colon touching as = true := by
  cases as with
  | nil => rfl
  | cons a as =>
    cases a with
    | blank c => exact h
    | token k =>
      by_cases hk : k = .newline
      · subst hk
        rwa [tightFrom_newline] at h ⊢
      · rw [tightFrom_token hk] at h ⊢
        exact ⟨h.1, fun hc ↦ absurd (h.2.1 hc) (by simp), h.2.2⟩

/-- Atoms without colons do not count. -/
theorem tightFrom_append {as bs : List Atom} (ha : ∀ k ∈ kinds as, k ≠ .colon)
    (hb : tightFrom false false bs = true) (touching : Bool) :
    tightFrom false touching (as ++ bs) = true := by
  induction as generalizing touching with
  | nil => exact tightFrom_touching hb touching
  | cons a as ih =>
    cases a with
    | blank c => exact ih ha false
    | token k =>
      have ih := ih fun l hl ↦ ha l (List.mem_cons_of_mem _ hl)
      rw [List.cons_append]
      by_cases hk : k = .newline
      · subst hk
        rw [tightFrom_newline]
        exact ih false
      · have hcolon : k ≠ .colon := ha k (List.mem_cons_self ..)
        rw [tightFrom_token hk]
        refine ⟨rfl, fun h ↦ absurd h hcolon, ?_⟩
        rw [beq_false_of_ne hcolon]
        exact ih true

/-- What is known where the atoms start: the token `p` before them on their line, whether blanks
come after it, and whether it is a colon that must not be touched. -/
def Joins (p : Option BodyToken) (gap : Option Bool) (colon touching : Bool)
    (next : Option Char) : Prop :=
  match p, gap with
  | none, none => touching = false
  | some p, some spaced =>
    (spaced = false → p.kind.ReadsBefore next) ∧
      (p.kind = .colon → spaced = true ∨ colon = true) ∧ (touching = true → spaced = false)
  | _, _ => False

/-- The neighbours on the lines of atoms fit together. -/
theorem isChain_splitLines {as : List Atom} {next : Option Char} {p : Option BodyToken}
    {gap : Option Bool} {colon touching : Bool} (hs : Spelled as next)
    (ht : tightFrom colon touching as = true)
    (hp : Joins p gap colon touching (firstChar as next)) :
    (p.toList ++ (splitLines gap as).1).IsChain Neighbours ∧
      ∀ line ∈ (splitLines gap as).2, line.IsChain Neighbours := by
  induction as generalizing p gap colon touching with
  | nil =>
    rw [splitLines_nil]
    cases p <;> simp
  | cons a as ih =>
    cases a with
    | blank c =>
      rw [splitLines_blank]
      refine ih hs.2 ht ?_
      rcases p with _ | p <;> rcases gap with _ | spaced
      · rfl
      · exact hp.elim
      · exact hp.elim
      · exact ⟨by simp, fun _ ↦ .inl rfl, by simp⟩
    | token k =>
      by_cases hk : k = .newline
      · subst hk
        rw [tightFrom_newline] at ht
        have hrest := @ih none none _ _ hs.2 ht rfl
        rw [splitLines_newline]
        refine ⟨by cases p <;> simp, fun line hline ↦ ?_⟩
        rcases List.mem_cons.1 hline with rfl | hline
        · exact hrest.1
        · exact hrest.2 line hline
      · obtain ⟨rfl, hcolon, ht⟩ := (tightFrom_token hk _ _ _).1 ht
        have hrest := @ih (some ⟨k, gap.getD false⟩) (some false) _ _ hs.2 ht
          ⟨fun _ ↦ hs.1, fun hkc ↦ .inr (beq_iff_eq.2 hkc), fun _ ↦ rfl⟩
        rw [splitLines_token hk]
        refine ⟨?_, hrest.2⟩
        rcases p with _ | p <;> rcases gap with _ | spaced
        · exact hrest.1
        · exact hp.elim
        · exact hp.elim
        · obtain ⟨hreads, hpcolon, htouch⟩ := hp
          refine List.isChain_cons_cons.2 ⟨⟨?_, ?_, ?_⟩, hrest.1⟩
          · intro hspaced
            rw [← firstChar_token (text_ne_nil_of_readsBefore hs.1) as next]
            exact hreads hspaced
          · exact fun hkc ↦ htouch (hcolon hkc)
          · exact fun hkc ↦ (hpcolon hkc).resolve_right (by simp)

/-- The first token of each line has nothing before it. -/
theorem first_splitLines (as : List Atom) (gap : Option Bool) :
    (gap = none → ∀ t ∈ (splitLines gap as).1.head?, t.spaced = false) ∧
      ∀ line ∈ (splitLines gap as).2, ∀ t ∈ line.head?, t.spaced = false := by
  induction as generalizing gap with
  | nil => simp
  | cons a as ih =>
    cases a with
    | blank c =>
      rw [splitLines_blank]
      exact ⟨fun h ↦ (ih _).1 (by rw [h]; rfl), (ih _).2⟩
    | token k =>
      by_cases hk : k = .newline
      · subst hk
        rw [splitLines_newline]
        refine ⟨by simp, fun line hline ↦ ?_⟩
        rcases List.mem_cons.1 hline with rfl | hline
        · exact (ih none).1 rfl
        · exact (ih none).2 line hline
      · rw [splitLines_token hk]
        refine ⟨?_, (ih _).2⟩
        rintro rfl t ht
        obtain rfl := Option.mem_some_iff.1 ht
        rfl

/-- The tokens of the lines are those of the atoms, without the line breaks. -/
theorem flatten_splitLines (as : List Atom) (gap : Option Bool) :
    ((splitLines gap as).1 ++ (splitLines gap as).2.flatten).map BodyToken.kind =
      (kinds as).filter (· ≠ .newline) := by
  induction as generalizing gap with
  | nil => simp
  | cons a as ih =>
    cases a with
    | blank c =>
      rw [splitLines_blank]
      exact ih _
    | token k =>
      by_cases hk : k = .newline
      · subst hk
        rw [splitLines_newline]
        simpa using ih none
      · rw [splitLines_token hk]
        simpa [hk] using ih (some false)

/-- Line breaks do not count as brackets. -/
theorem depthAfter_filter (depth : Nat) (ks : List Kind) :
    depthAfter depth (ks.filter (· ≠ .newline)) = depthAfter depth ks := by
  induction ks generalizing depth with
  | nil => rfl
  | cons k ks ih =>
    by_cases hk : k = .newline
    · subst hk
      rw [List.filter_cons_of_neg (by simp), ih]
      rfl
    · rw [List.filter_cons_of_pos (by simpa using hk)]
      cases k <;> first | exact ih _ | (cases depth <;> first | rfl | exact ih _)

/-! ### Blank lines -/

namespace Block

/-- Settling the blank lines loses no token. -/
theorem flatten_settle (gap : Bool) (lines : List Line) :
    (settle gap lines).flatten = lines.flatten := by
  fun_induction settle gap lines with
  | case1 => rfl
  | case2 gap line lines hempty ih =>
    rw [List.isEmpty_iff.1 hempty]
    exact ih
  | case3 line lines hline ih => simp [ih]
  | case4 gap line lines hline hgap ih => simp [ih]

/-- Settling the blank lines makes no line but blank ones. -/
theorem mem_settle {gap : Bool} {lines : List Line} {line : Line} (h : line ∈ settle gap lines) :
    line = [] ∨ line ∈ lines := by
  fun_induction settle gap lines with
  | case1 => simp at h
  | case2 gap l lines hempty ih => exact (ih h).imp_right (List.mem_cons_of_mem _)
  | case3 l lines hline ih =>
    rcases List.mem_cons.1 h with rfl | h
    · exact .inl rfl
    rcases List.mem_cons.1 h with rfl | h
    · exact .inr (List.mem_cons_self ..)
    · exact (ih h).imp_right (List.mem_cons_of_mem _)
  | case4 gap l lines hline hgap ih =>
    rcases List.mem_cons.1 h with rfl | h
    · exact .inr (List.mem_cons_self ..)
    · exact (ih h).imp_right (List.mem_cons_of_mem _)

/-- Lines that are settled stay as they are, and a blank line at their end goes away. -/
theorem settle_settle (gap : Bool) (lines : List Line) :
    settle false (settle gap lines ++ [[]]) = settle gap lines := by
  fun_induction settle gap lines with
  | case1 => rfl
  | case2 gap line lines hempty ih => exact ih
  | case3 line lines hline ih =>
    show settle true (line :: (settle false lines ++ [[]])) = _
    rw [settle, if_neg hline, if_pos rfl, ih]
  | case4 gap line lines hline hgap ih =>
    rw [List.cons_append, settle, if_neg hline, if_neg (by simp), ih]

/-- **A body that is printed between line breaks has the same lines.** -/
theorem ofLines_framed (lines : List Line) :
    ofLines ([] :: ((ofLines lines).lines ++ [[]])) = ofLines lines := by
  have hdrop : (([] : Line) :: ((ofLines lines).lines ++ [[]])).dropWhile List.isEmpty =
      ((ofLines lines).lines ++ [[]]).dropWhile List.isEmpty :=
    List.dropWhile_cons_of_pos rfl
  rw [ofLines, hdrop]
  -- what is left after the blank lines at the front starts with a line that is not blank
  cases hrest : lines.dropWhile List.isEmpty with
  | nil => simp [ofLines, hrest, settle]
  | cons line rest =>
    have hline : line.isEmpty = false := by
      have hhead := List.head_dropWhile_not List.isEmpty (l := lines) (by rw [hrest]; simp)
      simpa [hrest] using hhead
    have hsettled : (ofLines lines).lines = line :: settle false rest := by
      simp [ofLines, hrest, settle, hline]
    have hkeep : ((ofLines lines).lines ++ [[]]).dropWhile List.isEmpty =
        (ofLines lines).lines ++ [[]] := by
      rw [hsettled, List.cons_append, List.dropWhile_cons_of_neg (by simp [hline])]
    rw [hkeep, ofLines, settle_settle]

theorem mem_ofLines {lines : List Line} {line : Line} (h : line ∈ (ofLines lines).lines) :
    line = [] ∨ line ∈ lines :=
  (mem_settle h).imp_right fun hmem ↦ (List.dropWhile_sublist _).subset hmem

/-- No token is lost with the blank lines. -/
theorem flatten_ofLines (lines : List Line) : (ofLines lines).lines.flatten = lines.flatten := by
  have hflatten : (lines.dropWhile List.isEmpty).flatten = lines.flatten := by
    induction lines with
    | nil => rfl
    | cons line lines ih =>
      cases line with
      | nil => exact ih
      | cons t line => rfl
  rw [ofLines, flatten_settle, hflatten]

/-- **A body that is read back as it is printed.** -/
structure Sound (b : Block) : Prop where
  /-- So are its lines. -/
  lines : ∀ line ∈ b.lines, line.Sound
  /-- The brackets match. -/
  balanced : depthAfter 0 (b.lines.flatten.map BodyToken.kind) = some 0
  /-- The blank lines are settled. -/
  settled : ofLines ([] :: (b.lines ++ [[]])) = b

/-- The body that atoms are read as. -/
def ofAtoms (as : List Atom) : Block := ofLines ((splitLines none as).1 :: (splitLines none as).2)

end Block

/-! ### Bodies -/

/-- **Atoms of a function body.** -/
structure Body (as : List Atom) : Prop where
  /-- They are read back in front of the closing brace. -/
  spelled : Spelled as (some '\x7d')
  /-- Each token may be set apart from the one after it. -/
  closed : ∀ k ∈ kinds as, k.Closed ∧ k ≠ .eof
  /-- Colons touch the token before them and not the one after them. -/
  tight : tightFrom false false as = true
  /-- The brackets match. -/
  balanced : depthAfter 0 (kinds as) = some 0

/-- **The lines of a body are sound.** -/
theorem Body.sound_splitLines {as : List Atom} (h : Body as) :
    ∀ line ∈ (splitLines none as).1 :: (splitLines none as).2, line.Sound := by
  intro line hline
  have hchain := @isChain_splitLines _ _ none none _ _ h.spelled h.tight rfl
  have hfirst := first_splitLines as none
  refine ⟨?_, fun t ht ↦ ?_, ?_⟩
  · rcases List.mem_cons.1 hline with rfl | hline
    · exact hfirst.1 rfl
    · exact hfirst.2 line hline
  · have hmem : t.kind ∈ (kinds as).filter (· ≠ .newline) := by
      rw [← flatten_splitLines as none]
      refine List.mem_map_of_mem ?_
      rcases List.mem_cons.1 hline with rfl | hline
      · exact List.mem_append_left _ ht
      · exact List.mem_append_right _ (List.mem_flatten.2 ⟨line, hline, ht⟩)
    obtain ⟨hkind, hne⟩ := List.mem_filter.1 hmem
    exact ⟨(h.closed _ hkind).1, of_decide_eq_true hne, (h.closed _ hkind).2⟩
  · rcases List.mem_cons.1 hline with rfl | hline
    · exact hchain.1
    · exact hchain.2 line hline

/-- **The body that is read can be printed and read again.** -/
theorem Body.sound_ofAtoms {as : List Atom} (h : Body as) : (Block.ofAtoms as).Sound where
  lines line hline := by
    rcases Block.mem_ofLines hline with rfl | hline
    · exact Line.sound_nil
    · exact h.sound_splitLines line hline
  balanced := by
    rw [Block.ofAtoms, Block.flatten_ofLines, List.flatten_cons, flatten_splitLines,
      depthAfter_filter]
    exact h.balanced
  settled := Block.ofLines_framed _

end GoDecorator
