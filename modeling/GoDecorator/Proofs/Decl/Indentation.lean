import GoDecorator.Proofs.Decl.Contents
import Mathlib.Data.List.Count
import Mathlib.Data.List.Infix
import Mathlib.Data.List.TakeWhile

/-!
# Indentation

The printer of function bodies keeps two things from line to line: how many brackets are open, and
for each level of indentation how many were open where it started. **In a body that was read, these
are what they are meant to be** (`indentation_follows_brackets`). The number of open brackets is
exact, so that it never has to be cut off at zero; the levels grow from the outside to the inside
and are all closed at the end; and a line that closes what an earlier line has left open goes back
to the indentation of that line, with all lines between them further to the right.

## How it is stated

Depths are stated by counting brackets (`Block.depthAt`), independently of the printer.
`Block.Returns` says in these terms that one line closes what another one has left open: the first
line ends deeper than it started, no line between them comes down as far, and the last one does,
with the brackets that it closes at its start. `Block.FollowsBrackets` collects what is claimed.

## What each line preserves

What the printer does in one line is `Nesting.Tracks`, by induction on its tokens. What it does from
line to line are three properties of `Nesting` that each line preserves: the depth is exact
(`depth_along`), the levels are in order (`Graded`), and a level stays while no line comes down to
it (`HasLevel`). A line that leaves two brackets open starts one level, not two, which is why depth
and indentation are different numbers and why the levels are remembered at all.

That a body was read is used once: its brackets are balanced, so each line fits the depth where it
starts (`Line.Fits`).
-/

namespace GoDecorator

open Token

/-- Brackets are counted part by part. -/
theorem openers_append (ks ls : List Kind) : openers (ks ++ ls) = openers ks + openers ls :=
  List.countP_append

theorem closers_append (ks ls : List Kind) : closers (ks ++ ls) = closers ks + closers ls :=
  List.countP_append

namespace Line

/-- The number of brackets that a line opens. -/
def opened (line : Line) : Nat := openers (line.map BodyToken.kind)

/-- The number of brackets that a line closes. -/
def closed (line : Line) : Nat := closers (line.map BodyToken.kind)

/-- The tokens at the start of a line that close brackets. -/
def leading (line : Line) : Line := line.takeWhile (·.kind.isClosing)

/-- **Where the line starts, enough brackets are open for those that it closes.** -/
def Fits (depth : Nat) (line : Line) : Prop :=
  ∀ front : Line, front <+: line → front.closed ≤ depth + front.opened

@[simp] theorem opened_append (l m : Line) : opened (l ++ m) = l.opened + m.opened := by
  rw [opened, List.map_append, openers_append]
  rfl

@[simp] theorem closed_append (l m : Line) : closed (l ++ m) = l.closed + m.closed := by
  rw [closed, List.map_append, closers_append]
  rfl

@[simp] theorem opened_singleton (t : BodyToken) :
    opened [t] = if t.kind.isOpening then 1 else 0 := List.countP_singleton

@[simp] theorem closed_singleton (t : BodyToken) :
    closed [t] = if t.kind.isClosing then 1 else 0 := List.countP_singleton

theorem leading_prefix (line : Line) : line.leading <+: line := List.takeWhile_prefix _

/-- The leading tokens close brackets. -/
theorem isClosing_of_mem_leading {line : Line} {t : BodyToken} (h : t ∈ line.leading) :
    t.kind.isClosing = true :=
  @List.mem_takeWhile_imp _ (fun t : BodyToken ↦ t.kind.isClosing) line t h

/-- Each leading token closes one bracket. -/
theorem closed_leading (line : Line) : line.leading.closed = line.leading.length := by
  rw [closed, closers, List.countP_map, List.countP_eq_length]
  exact fun t ht ↦ isClosing_of_mem_leading ht

/-- The leading tokens open no bracket. -/
theorem opened_leading (line : Line) : line.leading.opened = 0 := by
  rw [opened, openers, List.countP_map, List.countP_eq_zero]
  intro t ht
  exact Bool.eq_false_iff.1 (Kind.isOpening_of_isClosing (isClosing_of_mem_leading ht))

theorem Fits.of_isPrefix {depth : Nat} {l m : Line} (h : Fits depth l) (hm : m <+: l) :
    Fits depth m :=
  fun front hfront ↦ h front (hfront.trans hm)

/-- The rest of a line fits where its front leads to. -/
theorem Fits.right {depth depth' : Nat} {l m : Line} (h : Fits depth (l ++ m))
    (hdepth : depth' + l.closed = depth + l.opened) : Fits depth' m := by
  intro front hfront
  have hle := h (l ++ front) ((List.prefix_append_right_inj l).2 hfront)
  simp only [opened_append, closed_append] at hle
  omega

end Line

namespace Nesting

/-! ### One line -/

/-- **What the printer knows after some tokens of a line** that starts at the given depth. -/
structure Tracks (depth : Nat) (front : Line) (state : Nat × Nat) : Prop where
  /-- How many brackets are open. -/
  depth_eq : state.1 + front.closed = depth + front.opened
  /-- No fewer were open at any point. -/
  lowest_le : ∀ part : Line, part <+: front → state.2 + part.closed ≤ depth + part.opened
  /-- As few were open at some point. -/
  reached : ∃ part : Line, part <+: front ∧ state.2 + part.closed = depth + part.opened

/-- One token moves the depth by one at most, and the lowest depth with it. -/
theorem step_exact {state : Nat × Nat} {t : BodyToken} (hle : state.2 ≤ state.1)
    (hopen : t.kind.isClosing = true → 0 < state.1) :
    (step state t).1 + Line.closed [t] = state.1 + Line.opened [t] ∧
      (step state t).2 = min state.2 (step state t).1 := by
  rw [Line.opened_singleton, Line.closed_singleton, step]
  by_cases hclosing : t.kind.isClosing = true
  · have hpos := hopen hclosing
    rw [if_neg (by simp [Kind.isOpening_of_isClosing hclosing]), if_pos hclosing, if_pos hclosing,
      if_neg (by simp [Kind.isOpening_of_isClosing hclosing])]
    exact ⟨Nat.sub_add_cancel hpos, rfl⟩
  · by_cases hopening : t.kind.isOpening = true
    · rw [if_pos hopening, if_neg hclosing, if_pos hopening]
      exact ⟨rfl, (Nat.min_eq_left (Nat.le_succ_of_le hle)).symm⟩
    · rw [if_neg hopening, if_neg hclosing, if_neg hclosing, if_neg hopening]
      exact ⟨rfl, (Nat.min_eq_left hle).symm⟩

/-- Where a bracket is closed, one is open. -/
theorem Tracks.pos_of_isClosing {depth : Nat} {front : Line} {state : Nat × Nat} {t : BodyToken}
    (h : Tracks depth front state) (hfits : Line.Fits depth (front ++ [t]))
    (ht : t.kind.isClosing = true) : 0 < state.1 := by
  have hdepth := h.depth_eq
  have hle := hfits _ List.prefix_rfl
  simp only [Line.closed_append, Line.opened_append, Line.closed_singleton, Line.opened_singleton,
    ht, Kind.isOpening_of_isClosing ht, if_true, Bool.false_eq_true, if_false] at hle
  omega

/-- **One more token.** The depth moves with it, and the lowest depth if it is passed. -/
theorem Tracks.step {depth : Nat} {front : Line} {state : Nat × Nat} {t : BodyToken}
    (h : Tracks depth front state) (hfits : Line.Fits depth (front ++ [t])) :
    Tracks depth (front ++ [t]) (Nesting.step state t) := by
  have hdepth := h.depth_eq
  have hlowest := h.lowest_le front List.prefix_rfl
  obtain ⟨hexact, hmin⟩ := step_exact (by omega) (h.pos_of_isClosing hfits)
  have hwhole : (Nesting.step state t).1 + Line.closed (front ++ [t]) =
      depth + Line.opened (front ++ [t]) := by
    rw [Line.closed_append, Line.opened_append]
    omega
  refine ⟨hwhole, fun part hpart ↦ ?_, ?_⟩
  · rcases List.prefix_concat_iff.1 hpart with rfl | hpart
    · omega
    · have hle := h.lowest_le part hpart
      omega
  · -- the lowest depth is the one before, or the token has just brought it about
    rcases Nat.le_total state.2 (Nesting.step state t).1 with hsame | hnew
    · obtain ⟨part, hpart, heq⟩ := h.reached
      exact ⟨part, hpart.trans (List.prefix_append front [t]), by omega⟩
    · exact ⟨front ++ [t], List.prefix_rfl, by omega⟩

/-- What the printer knows after the whole line. -/
theorem tracks_foldl {depth : Nat} {line : Line} (h : line.Fits depth) :
    Tracks depth line (line.foldl step (depth, depth)) := by
  induction line using List.reverseRecOn with
  | nil =>
    refine ⟨rfl, fun part hpart ↦ ?_, [], List.prefix_rfl, rfl⟩
    obtain rfl := List.prefix_nil.1 hpart
    exact le_rfl
  | append_singleton front t ih =>
    rw [List.foldl_append]
    exact (ih (h.of_isPrefix (List.prefix_append front [t]))).step h

variable {n : Nesting} {line : Line}

/-- The lowest depth that the printer finds in a line. -/
def lowest (n : Nesting) (line : Line) : Nat := (line.foldl step (n.depth, n.depth)).2

/-- The depth after a line is exact. -/
theorem depth_after (h : line.Fits n.depth) :
    (n.after line).depth + line.closed = n.depth + line.opened :=
  (tracks_foldl h).depth_eq

/-- The depth after the closing brackets at the start of a line is exact. -/
theorem lineDepth_eq (h : line.Fits n.depth) :
    n.lineDepth line + line.leading.closed = n.depth + line.leading.opened := by
  have hle := h _ line.leading_prefix
  rw [Line.closed_leading, Line.opened_leading] at hle ⊢
  exact Nat.sub_add_cancel hle

theorem lowest_le_lineDepth (h : line.Fits n.depth) : n.lowest line ≤ n.lineDepth line := by
  have hle := (tracks_foldl h).lowest_le _ line.leading_prefix
  rw [← lineDepth_eq h] at hle
  exact Nat.le_of_add_le_add_right hle

/-! ### Levels -/

/-- The levels that stay are those below the lowest point, and one may start there. -/
theorem levels_after (n : Nesting) (line : Line) :
    (n.after line).levels = n.levels.filter (· < n.lowest line) ++
      if n.lowest line < (n.after line).depth then [n.lowest line] else [] := by
  show (if n.lowest line < (n.after line).depth then _ else _) = _
  split
  next => rfl
  next => rw [List.append_nil]; rfl

/-- **The levels start one inside the other**, and none starts where the text is now. -/
structure Graded (n : Nesting) : Prop where
  /-- A level starts at more open brackets than those around it. -/
  sorted : n.levels.Pairwise (· < ·)
  /-- A level is open only where more brackets are open than at its start. -/
  below : ∀ d ∈ n.levels, d < n.depth

theorem lowest_le_depth_after (n : Nesting) (line : Line) :
    n.lowest line ≤ (n.after line).depth := by
  have hstep : ∀ (state : Nat × Nat) (t : BodyToken), state.2 ≤ state.1 →
      (step state t).2 ≤ (step state t).1 := by
    intro state t hle
    unfold step
    split
    · exact Nat.le_succ_of_le hle
    · split
      · exact Nat.min_le_right _ _
      · exact hle
  exact @List.foldlRecOn _ _ (fun state ↦ state.2 ≤ state.1) line step (n.depth, n.depth)
    (Nat.le_refl _) fun state hle t _ ↦ hstep state t hle

/-- A line keeps the levels in order. -/
theorem Graded.after (h : n.Graded) (line : Line) : (n.after line).Graded := by
  have hle := n.lowest_le_depth_after line
  refine ⟨?_, fun d hd ↦ ?_⟩
  · rw [levels_after, List.pairwise_append]
    refine ⟨h.sorted.filter _, ?_, fun a ha b hb ↦ ?_⟩
    · split
      · exact List.pairwise_singleton _ _
      · exact .nil
    · split at hb
      · obtain rfl := List.mem_singleton.1 hb
        exact of_decide_eq_true (List.mem_filter.1 ha).2
      · cases hb
  · rw [levels_after] at hd
    rcases List.mem_append.1 hd with hd | hd
    · exact (of_decide_eq_true (List.mem_filter.1 hd).2).trans_le hle
    · split at hd
      next hlt => exact List.mem_singleton.1 hd ▸ hlt
      next => cases hd

/-- **A level that started at the given depth is open**, with so many others around it. -/
structure HasLevel (n : Nesting) (depth outer : Nat) : Prop where
  /-- The level is open. -/
  mem : depth ∈ n.levels
  /-- The levels around it. -/
  outer_eq : n.levels.countP (· < depth) = outer

/-- A line that ends deeper than its lowest point starts a level there. -/
theorem hasLevel_after (h : n.lowest line < (n.after line).depth) :
    (n.after line).HasLevel (n.lowest line) (n.levels.countP (· < n.lowest line)) := by
  have hlevels := n.levels_after line
  rw [if_pos h] at hlevels
  refine ⟨by simp [hlevels], ?_⟩
  rw [hlevels, List.countP_append, List.countP_filter]
  simp

/-- A line keeps the levels that it does not come down to. -/
theorem HasLevel.after {depth outer : Nat} (h : n.HasLevel depth outer)
    (hlow : depth < n.lowest line) : (n.after line).HasLevel depth outer := by
  refine ⟨?_, ?_⟩
  · rw [levels_after]
    exact List.mem_append_left _ (List.mem_filter.2 ⟨h.mem, decide_eq_true hlow⟩)
  · have hsame : n.levels.countP (fun d ↦ decide (d < depth) && decide (d < n.lowest line)) =
        n.levels.countP (· < depth) := by
      refine List.countP_congr fun d _ ↦ ?_
      simp only [Bool.and_eq_true, decide_eq_true_eq, and_iff_left_iff_imp]
      omega
    have hnew : (if n.lowest line < (n.after line).depth then [n.lowest line] else []).countP
        (· < depth) = 0 := by
      split <;> simp [hlow.le]
    rw [levels_after, List.countP_append, List.countP_filter, hsame, hnew, h.outer_eq,
      Nat.add_zero]

/-- A line that goes back to the depth of a level stands outside of it. -/
theorem HasLevel.indent_eq {depth outer : Nat} (h : n.HasLevel depth outer)
    (hline : n.lineDepth line = depth) : n.indent line = 1 + outer := by
  rw [indent, hline, h.outer_eq]

/-- A line that stays deeper than a level stands inside of it. -/
theorem HasLevel.lt_indent {depth outer : Nat} (h : n.HasLevel depth outer)
    (hline : depth < n.lineDepth line) : 1 + outer < n.indent line := by
  have hlt : (n.levels.filter (· < n.lineDepth line)).countP (· < depth) <
      (n.levels.filter (· < n.lineDepth line)).length := by
    rw [List.countP_lt_length_iff]
    exact ⟨depth, List.mem_filter.2 ⟨h.mem, decide_eq_true hline⟩, by simp⟩
  have houter : (n.levels.filter (· < n.lineDepth line)).countP (· < depth) = outer := by
    rw [List.countP_filter, ← h.outer_eq]
    refine List.countP_congr fun d _ ↦ ?_
    simp only [Bool.and_eq_true, decide_eq_true_eq, and_iff_left_iff_imp]
    omega
  rw [houter, ← List.countP_eq_length_filter] at hlt
  rw [indent]
  omega

/-! ### Lines -/

/-- The nesting after a line that may be blank. -/
def past (n : Nesting) (line : Line) : Nesting := if line.isEmpty then n else n.after line

/-- The nesting after some lines. -/
def along (n : Nesting) (lines : List Line) : Nesting := lines.foldl past n

theorem past_of_ne_nil (h : line ≠ []) : n.past line = n.after line :=
  if_neg (by simpa using h)

/-- A blank line opens and closes nothing. -/
theorem depth_past (h : line.Fits n.depth) :
    (n.past line).depth + line.closed = n.depth + line.opened := by
  rcases eq_or_ne line [] with rfl | hne
  · rfl
  · rw [past_of_ne_nil hne]
    exact depth_after h

/-- **The number of open brackets is exact.** -/
theorem depth_along {lines : List Line} (h : Line.Fits n.depth lines.flatten) :
    (n.along lines).depth + Line.closed lines.flatten = n.depth + Line.opened lines.flatten := by
  induction lines generalizing n with
  | nil => rfl
  | cons line lines ih =>
    rw [List.flatten_cons] at h
    have hline := depth_past (h.of_isPrefix (List.prefix_append line _))
    have hlines := ih (h.right hline)
    rw [List.flatten_cons, Line.closed_append, Line.opened_append]
    change ((n.past line).along lines).depth + _ = _
    omega

theorem graded_none : Nesting.none.Graded := ⟨.nil, by simp [Nesting.none]⟩

/-- **The levels are always in order.** -/
theorem Graded.along (h : n.Graded) (lines : List Line) : (n.along lines).Graded := by
  refine List.foldlRecOn lines past h fun n h line _ ↦ ?_
  unfold past
  split
  · exact h
  · exact h.after line

end Nesting

/-- What is printed for the lines of a body. -/
theorem getElem?_layoutFrom (n : Nesting) (lines : List Line) (i : Nat) :
    (layoutFrom n lines)[i]? = lines[i]?.map fun line ↦
      if line.isEmpty then none
      else
        let indent := (n.along (lines.take i)).indent line
        some (.ofLine (if isMark line then indent - 1 else indent) line) := by
  induction lines generalizing n i with
  | nil => rfl
  | cons line lines ih =>
    cases i with
    | zero =>
      unfold layoutFrom
      split <;> simp_all [Nesting.along]
    | succ i =>
      unfold layoutFrom
      split
      next hempty =>
        rw [List.getElem?_cons_succ, ih]
        simp [Nesting.along, Nesting.past, hempty]
      next hempty =>
        rw [List.getElem?_cons_succ, ih]
        simp [Nesting.along, Nesting.past, hempty]

/-! ### Bodies -/

/-- The number of brackets that are open after the given tokens. -/
def openAfter (ks : List Kind) : Nat := openers ks - closers ks

namespace Block

variable {b : Block} {i : Nat} {line : Line}

/-- The number of brackets that are open in a line after the tokens that it starts with. -/
def depthAt (b : Block) (i : Nat) (front : Line) : Nat :=
  openAfter (((b.lines.take i).flatten ++ front).map BodyToken.kind)

/-- What the printer keeps where it comes to a line. -/
def nestingAt (b : Block) (i : Nat) : Nesting := Nesting.none.along (b.lines.take i)

/-- The indentation of a line, before marks are moved to the left. -/
def indentAt (b : Block) (i : Nat) (line : Line) : Nat := (b.nestingAt i).indent line

/-- **The last line closes what the first line has left open.** -/
structure Returns (b : Block) (i j : Nat) (first last : Line) : Prop where
  /-- One of the lines. -/
  first_eq : b.lines[i]? = some first
  /-- The other one. -/
  last_eq : b.lines[j]? = some last
  /-- It comes later. -/
  lt : i < j
  /-- The first line is at its lowest depth after the brackets that it closes at its start. -/
  lowest : ∀ front : Line, front <+: first → b.depthAt i first.leading ≤ b.depthAt i front
  /-- It ends deeper. -/
  deepens : b.depthAt i first.leading < b.depthAt i first
  /-- All lines between them stay deeper. -/
  stays : ∀ (k : Nat) (line : Line), i < k → k < j → b.lines[k]? = some line → line ≠ [] →
    ∀ front : Line, front <+: line → b.depthAt i first.leading < b.depthAt k front
  /-- The last line comes back to that depth with the brackets that it closes at its start. -/
  returns : b.depthAt j last.leading = b.depthAt i first.leading

theorem returns_iff {j : Nat} {first last : Line} : b.Returns i j first last ↔
    b.lines[i]? = some first ∧ b.lines[j]? = some last ∧ i < j ∧
      (∀ front ∈ first.inits, b.depthAt i first.leading ≤ b.depthAt i front) ∧
      b.depthAt i first.leading < b.depthAt i first ∧
      (∀ k < j, i < k → ∀ line ∈ b.lines[k]?, line ≠ [] →
        ∀ front ∈ line.inits, b.depthAt i first.leading < b.depthAt k front) ∧
      b.depthAt j last.leading = b.depthAt i first.leading := by
  simp only [List.mem_inits]
  exact ⟨fun h ↦ ⟨h.first_eq, h.last_eq, h.lt, h.lowest, h.deepens,
      fun k hkj hik line hline ↦ h.stays k line hik hkj hline, h.returns⟩,
    fun ⟨hfirst, hlast, hlt, hlowest, hdeepens, hstays, hreturns⟩ ↦ ⟨hfirst, hlast, hlt, hlowest,
      hdeepens, fun k line hik hkj hline ↦ hstays k hkj hik line hline, hreturns⟩⟩

instance (b : Block) (i j : Nat) (first last : Line) : Decidable (b.Returns i j first last) :=
  decidable_of_iff' _ returns_iff

theorem flatten_take_prefix (b : Block) (i : Nat) :
    (b.lines.take i).flatten <+: b.lines.flatten :=
  ⟨(b.lines.drop i).flatten, by rw [← List.flatten_append, List.take_append_drop]⟩

theorem flatten_take_succ (hline : b.lines[i]? = some line) :
    (b.lines.take (i + 1)).flatten = (b.lines.take i).flatten ++ line := by
  rw [List.take_add_one, hline, List.flatten_append]
  exact congrArg _ (List.append_nil line)

theorem nestingAt_succ (hline : b.lines[i]? = some line) :
    b.nestingAt (i + 1) = (b.nestingAt i).past line := by
  rw [nestingAt, List.take_add_one, hline, Nesting.along, List.foldl_append]
  rfl

/-- In a balanced body no bracket is closed that is not open. -/
theorem fits_of_balanced (h : Balanced (b.lines.flatten.map BodyToken.kind)) :
    Line.Fits 0 b.lines.flatten := by
  intro front hfront
  rw [Nat.zero_add]
  exact h.within _ (hfront.map _)

section Fits

variable (hb : Line.Fits 0 b.lines.flatten)
include hb

/-- The depth where a line starts is that of the lines before it. -/
theorem depth_nestingAt (i : Nat) :
    (b.nestingAt i).depth + Line.closed (b.lines.take i).flatten =
      Line.opened (b.lines.take i).flatten := by
  have hdepth := @Nesting.depth_along .none _ (hb.of_isPrefix (b.flatten_take_prefix i))
  rwa [show Nesting.none.depth = 0 from rfl, Nat.zero_add] at hdepth

/-- The printer never closes more brackets than it has counted. -/
theorem fits_nestingAt (hline : b.lines[i]? = some line) : line.Fits (b.nestingAt i).depth := by
  have hupto : Line.Fits 0 ((b.lines.take i).flatten ++ line) :=
    hb.of_isPrefix (flatten_take_succ hline ▸ b.flatten_take_prefix (i + 1))
  exact hupto.right (by rw [Nat.zero_add, depth_nestingAt hb i])

theorem depthAt_add_closed (hline : b.lines[i]? = some line) {front : Line}
    (hfront : front <+: line) :
    b.depthAt i front + front.closed = (b.nestingAt i).depth + front.opened := by
  have hdepth := depth_nestingAt hb i
  have hle := fits_nestingAt hb hline front hfront
  have hcount : b.depthAt i front = Line.opened ((b.lines.take i).flatten ++ front) -
      Line.closed ((b.lines.take i).flatten ++ front) := rfl
  rw [Line.opened_append, Line.closed_append] at hcount
  omega

/-- **What the printer counts in a line is the number of open brackets.** -/
theorem foldl_step_nestingAt (hline : b.lines[i]? = some line) {front : Line}
    (hfront : front <+: line) :
    (front.foldl Nesting.step ((b.nestingAt i).depth, (b.nestingAt i).depth)).1 =
      b.depthAt i front := by
  have hfits := (fits_nestingAt hb hline).of_isPrefix hfront
  exact Nat.add_right_cancel
    ((Nesting.tracks_foldl hfits).depth_eq.trans (depthAt_add_closed hb hline hfront).symm)

/-- The depth that the indentation is made from is that after the leading brackets. -/
theorem lineDepth_nestingAt (hline : b.lines[i]? = some line) :
    (b.nestingAt i).lineDepth line = b.depthAt i line.leading :=
  Nat.add_right_cancel ((Nesting.lineDepth_eq (fits_nestingAt hb hline)).trans
    (depthAt_add_closed hb hline line.leading_prefix).symm)

/-- The lowest depth that the printer finds is the least number of open brackets. -/
theorem le_lowest_iff (hline : b.lines[i]? = some line) {depth : Nat} :
    depth ≤ (b.nestingAt i).lowest line ↔ ∀ front, front <+: line → depth ≤ b.depthAt i front := by
  have htracks := Nesting.tracks_foldl (fits_nestingAt hb hline)
  constructor
  · intro hle front hfront
    have hlowest : (b.nestingAt i).lowest line + _ ≤ _ := htracks.lowest_le front hfront
    have hdepth := depthAt_add_closed hb hline hfront
    omega
  · intro hall
    obtain ⟨front, hfront, heq⟩ := htracks.reached
    have hdepth := depthAt_add_closed hb hline hfront
    have hle := hall front hfront
    change (b.nestingAt i).lowest line + _ = _ at heq
    omega

/-- A level that a line starts stays open up to the line that comes down to it. -/
theorem hasLevel_nestingAt {j : Nat} {first : Line} (hfirst : b.lines[i]? = some first)
    (hend : (b.nestingAt i).lowest first < b.depthAt i first)
    (hbetween : ∀ k line, i < k → k < j → b.lines[k]? = some line → line ≠ [] →
      (b.nestingAt i).lowest first < (b.nestingAt k).lowest line) {k : Nat} (hik : i < k)
    (hkj : k ≤ j) : (b.nestingAt k).HasLevel ((b.nestingAt i).lowest first)
      ((b.nestingAt i).levels.countP (· < (b.nestingAt i).lowest first)) := by
  induction k, hik using Nat.le_induction with
  | base =>
    have hne : first ≠ [] := by
      rintro rfl
      exact hend.ne (foldl_step_nestingAt hb hfirst List.prefix_rfl)
    rw [nestingAt_succ hfirst, Nesting.past_of_ne_nil hne]
    exact Nesting.hasLevel_after (hend.trans_eq
      (foldl_step_nestingAt hb hfirst List.prefix_rfl).symm)
  | succ k hik ih =>
    have hlevel := ih (Nat.le_of_succ_le hkj)
    cases hline : b.lines[k]? with
    | none =>
      rw [nestingAt, List.take_add_one, hline, Option.toList_none, List.append_nil]
      exact hlevel
    | some line =>
      rw [nestingAt_succ hline]
      rcases eq_or_ne line [] with rfl | hne
      · exact hlevel
      · rw [Nesting.past_of_ne_nil hne]
        exact hlevel.after (hbetween k line hik hkj hline hne)

/-- Where a bracket is closed in a line, one is open. -/
theorem depthAt_pos {front back : Line} {t : BodyToken}
    (hline : b.lines[i]? = some (front ++ t :: back)) (ht : t.kind.isClosing = true) :
    0 < b.depthAt i front := by
  have hfits := fits_nestingAt hb hline
  have hfront : front <+: front ++ t :: back := List.prefix_append front _
  have hnext : front ++ [t] <+: front ++ t :: back := ⟨back, by simp⟩
  rw [← foldl_step_nestingAt hb hline hfront]
  have htracks := Nesting.tracks_foldl (hfits.of_isPrefix hfront)
  exact htracks.pos_of_isClosing (hfits.of_isPrefix hnext) ht

theorem leading_length_le (hline : b.lines[i]? = some line) :
    line.leading.length ≤ (b.nestingAt i).depth := by
  have hle := fits_nestingAt hb hline _ line.leading_prefix
  rwa [Line.closed_leading, Line.opened_leading, Nat.add_zero] at hle

/-- **A line that closes what an earlier line has left open has the indentation of that line**, and
the lines between them have more. -/
theorem Returns.indentAt {j : Nat} {first last : Line} (h : b.Returns i j first last) :
    b.indentAt j last = b.indentAt i first ∧
      ∀ (k : Nat) (line : Line), i < k → k < j → b.lines[k]? = some line → line ≠ [] →
        b.indentAt i first < b.indentAt k line := by
  have hlowest : (b.nestingAt i).lowest first = b.depthAt i first.leading := by
    refine le_antisymm ?_ ((le_lowest_iff hb h.first_eq).2 h.lowest)
    rw [← lineDepth_nestingAt hb h.first_eq]
    exact Nesting.lowest_le_lineDepth (fits_nestingAt hb h.first_eq)
  have hlevel : ∀ k, i < k → k ≤ j → (b.nestingAt k).HasLevel (b.depthAt i first.leading)
      ((b.nestingAt i).levels.countP (· < b.depthAt i first.leading)) := by
    intro k hik hkj
    rw [← hlowest]
    refine hasLevel_nestingAt hb h.first_eq (hlowest.trans_lt h.deepens)
      (fun k line hik hkj hline hne ↦ ?_) hik hkj
    rw [hlowest]
    exact (le_lowest_iff hb hline).2 (h.stays k line hik hkj hline hne)
  have hindent : b.indentAt i first =
      1 + (b.nestingAt i).levels.countP (· < b.depthAt i first.leading) := by
    rw [Block.indentAt, Nesting.indent, lineDepth_nestingAt hb h.first_eq]
  refine ⟨?_, fun k line hik hkj hline hne ↦ ?_⟩
  · rw [hindent]
    exact (hlevel j h.lt le_rfl).indent_eq ((lineDepth_nestingAt hb h.last_eq).trans h.returns)
  · rw [hindent]
    refine (hlevel k hik hkj.le).lt_indent ?_
    rw [lineDepth_nestingAt hb hline]
    exact h.stays k line hik hkj hline hne _ line.leading_prefix

end Fits

/-- Nothing is open after the last line. -/
theorem nestingAt_length (h : Balanced (b.lines.flatten.map BodyToken.kind)) :
    b.nestingAt b.lines.length = .none := by
  have hdepth := depth_nestingAt (fits_of_balanced h) b.lines.length
  have hgraded : (b.nestingAt b.lines.length).Graded := Nesting.graded_none.along _
  rw [List.take_length] at hdepth
  have hzero : (b.nestingAt b.lines.length).depth = 0 := by
    have hwhole : Line.opened b.lines.flatten = Line.closed b.lines.flatten := h.whole
    omega
  have hlevels : (b.nestingAt b.lines.length).levels = [] :=
    List.eq_nil_iff_forall_not_mem.2 fun d hd ↦ by
      have hlt := hgraded.below d hd
      omega
  exact congrArg₂ Nesting.mk hzero hlevels

/-- **The indentation of a body follows its brackets.** -/
structure FollowsBrackets (b : Block) : Prop where
  /-- A line is printed with its indentation, and a mark with one level less. -/
  printed : ∀ (i : Nat) (line : Line), b.lines[i]? = some line → line ≠ [] →
    (layoutFrom .none b.lines)[i]? = some (some (PrintedLine.ofLine
      (if isMark line then b.indentAt i line - 1 else b.indentAt i line) line))
  /-- In each line the printer counts the open brackets, and where it closes one, one is open. -/
  counted : ∀ (i : Nat) (front : Line) (t : BodyToken) (back : Line),
    b.lines[i]? = some (front ++ t :: back) →
      (front.foldl Nesting.step ((b.nestingAt i).depth, (b.nestingAt i).depth)).1 =
          b.depthAt i front ∧
        (t.kind.isClosing = true → 0 < b.depthAt i front)
  /-- No line starts by closing more brackets than are open. -/
  leading : ∀ (i : Nat) (line : Line), b.lines[i]? = some line →
    line.leading.length ≤ (b.nestingAt i).depth
  /-- After the last line no bracket is open, and no level. -/
  ends : b.nestingAt b.lines.length = .none
  /-- The levels are in order. -/
  graded : ∀ i : Nat, (b.nestingAt i).Graded
  /-- A line that closes what an earlier line has left open has the indentation of that line, and
  the lines between them have more. -/
  returns : ∀ (i j : Nat) (first last : Line), b.Returns i j first last →
    b.indentAt j last = b.indentAt i first ∧
      ∀ (k : Nat) (line : Line), i < k → k < j → b.lines[k]? = some line → line ≠ [] →
        b.indentAt i first < b.indentAt k line

end Block

/-- The brackets of a body that was read are balanced. -/
theorem balanced_of_block {ts rest : List Token} {b : Block}
    (h : Parser.block.run ts = .ok (b, rest)) : Balanced (b.lines.flatten.map BodyToken.kind) := by
  obtain ⟨o, us, line, lines, rfl, -, hbody, rfl⟩ := exists_bodyLines_of_block h
  rw [Block.flatten_ofLines, List.flatten_cons]
  exact balanced_of_depthAfter (depthAfter_of_bodyLines hbody)

/-- **The indentation of every body that is read follows its brackets.** -/
theorem indentation_follows_brackets {ts rest : List Token} {b : Block}
    (h : Parser.block.run ts = .ok (b, rest)) : b.FollowsBrackets := by
  have hbalanced := balanced_of_block h
  have hfits := Block.fits_of_balanced hbalanced
  refine ⟨fun i line hline hne ↦ ?_, fun i front t back hline ↦ ?_,
    fun i line hline ↦ Block.leading_length_le hfits hline, Block.nestingAt_length hbalanced,
    fun i ↦ Nesting.graded_none.along _, fun i j first last hreturns ↦ hreturns.indentAt hfits⟩
  · rw [getElem?_layoutFrom, hline, Option.map_some, if_neg (by simpa using hne)]
    rfl
  · exact ⟨Block.foldl_step_nestingAt hfits hline (List.prefix_append front _),
      Block.depthAt_pos hfits hline⟩

/-- A line that opens two brackets and starts one level, and a line that closes both. -/
theorem indentation_follows_brackets_switch :
    ∃ b rest first label last, Parser.block.run [⟨.opening .brace, ⟨0, 1, 1⟩⟩,
        ⟨.ident "f", ⟨1, 2, 1⟩⟩, ⟨.opening .paren, ⟨2, 3, 1⟩⟩, ⟨.opening .brace, ⟨3, 4, 1⟩⟩,
        ⟨.newline, ⟨4, 5, 1⟩⟩, ⟨.newline, ⟨5, 6, 2⟩⟩, ⟨.ident "default", ⟨6, 13, 3⟩⟩,
        ⟨.colon, ⟨13, 14, 3⟩⟩, ⟨.newline, ⟨14, 15, 3⟩⟩, ⟨.closing .brace, ⟨15, 16, 4⟩⟩,
        ⟨.closing .paren, ⟨16, 17, 4⟩⟩, ⟨.newline, ⟨17, 18, 4⟩⟩, ⟨.closing .brace, ⟨18, 19, 5⟩⟩,
        ⟨.eof, ⟨19, 19, 5⟩⟩] = .ok (b, rest) ∧
      b.lines = [first, [], label, last] ∧ b.Returns 0 3 first last ∧
      b.indentAt 3 last = b.indentAt 0 first ∧ b.indentAt 0 first < b.indentAt 2 label ∧
      b.nestingAt 4 = .none := by
  have hrun : Parser.block.run [⟨.opening .brace, ⟨0, 1, 1⟩⟩, ⟨.ident "f", ⟨1, 2, 1⟩⟩,
      ⟨.opening .paren, ⟨2, 3, 1⟩⟩, ⟨.opening .brace, ⟨3, 4, 1⟩⟩, ⟨.newline, ⟨4, 5, 1⟩⟩,
      ⟨.newline, ⟨5, 6, 2⟩⟩, ⟨.ident "default", ⟨6, 13, 3⟩⟩, ⟨.colon, ⟨13, 14, 3⟩⟩,
      ⟨.newline, ⟨14, 15, 3⟩⟩, ⟨.closing .brace, ⟨15, 16, 4⟩⟩, ⟨.closing .paren, ⟨16, 17, 4⟩⟩,
      ⟨.newline, ⟨17, 18, 4⟩⟩, ⟨.closing .brace, ⟨18, 19, 5⟩⟩, ⟨.eof, ⟨19, 19, 5⟩⟩] =
      .ok (⟨[[⟨.ident "f", false⟩, ⟨.opening .paren, false⟩, ⟨.opening .brace, false⟩], [],
        [⟨.ident "default", false⟩, ⟨.colon, false⟩],
        [⟨.closing .brace, false⟩, ⟨.closing .paren, false⟩]]⟩, [⟨.eof, ⟨19, 19, 5⟩⟩]) := by
    decide
  have hfollows := indentation_follows_brackets hrun
  have hreturns := hfollows.returns 0 3
    [⟨.ident "f", false⟩, ⟨.opening .paren, false⟩, ⟨.opening .brace, false⟩]
    [⟨.closing .brace, false⟩, ⟨.closing .paren, false⟩]
    (by decide)
  exact ⟨_, _, _, _, _, hrun, rfl, by decide, hreturns.1,
    hreturns.2 2 _ (by decide) (by decide) rfl (by decide), hfollows.ends⟩

end GoDecorator
