import Mathlib.Data.List.Forall2
import Mathlib.Data.List.SplitBy
import GoDecorator.Decl.Printer
import GoDecorator.Proofs.Decl.Bodies

/-!
# Printed bodies are read back

The printer puts tabs in front of each line and lines up the values of neighbouring `key: value,`
lines. The tabs do not change the tokens or whether something stands between them, since they come
before the first token of a line. A line with a key is printed with its colon right after the key
and with at least one blank before the value. This is how the line is read (`Line.tuned`), whether
there were blanks in these two places before or not.

## From lines to texts

A line is `Legible` if each token is read back in front of what is printed after it. Then
`Block.Legible.exists_atoms_text` says that **the text of a legible body has atoms whose lines are
those of the body, tuned**. It is put together line by line:

* `PrintedFor line as` says that the atoms are read as the line, whatever lines come after it. It
  holds with any number of tabs in front, and with any number of blanks after a colon
  (`printedFor_keyed`);
* `PrintsAs line printed` says what may be printed for a line. The layout satisfies it
  (`forall₂_layoutFrom`), and lining up preserves it (`forall₂_alignKeys`).

The indentation and the width of the key column do not matter for it; of `Nesting` nothing is used,
and of `alignKeys` only that it changes the number of blanks to another positive number. Nor do they
change with tuning: **a tuned body has the same text** (`Block.text_tuned`). So a body that was
printed and read once is printed in the same way again.

The lines of generated bodies are sound. They are legible, and tuned already
(`Line.Sound.tuned_eq`).
-/

namespace GoDecorator

open Token

/-! ### One line -/

/-- The atoms of tokens after the first one of a line. -/
def tailAtoms (line : Line) : List Atom :=
  line.flatMap fun t ↦ (if t.spaced then [.blank ' '] else []) ++ [.token t.kind]

@[simp] theorem tailAtoms_nil : tailAtoms [] = [] := rfl

/-- A token comes after its blank, if it has one. -/
theorem tailAtoms_cons (t : BodyToken) (line : Line) :
    tailAtoms (t :: line) =
      (if t.spaced then [.blank ' '] else []) ++ .token t.kind :: tailAtoms line := by
  simp [tailAtoms]

/-- The atoms of a line; nothing goes before the first token. -/
def tokenAtoms : Line → List Atom
  | [] => []
  | t :: line => .token t.kind :: tailAtoms line

/-- The blanks are no tokens. -/
theorem kinds_tailAtoms (line : Line) : kinds (tailAtoms line) = line.map BodyToken.kind := by
  induction line with
  | nil => rfl
  | cons t line ih =>
    rw [tailAtoms_cons]
    cases t.spaced <;> simp [ih]

/-- The text of the atoms of a line is that of its tokens. -/
theorem atomsText_tokenAtoms (line : Line) :
    atomsText (tokenAtoms line) = (tokensText line).toList := by
  have htail : ∀ ts : Line, atomsText (tailAtoms ts) =
      (String.join (ts.map fun t ↦ (if t.spaced then " " else "") ++ t.kind.text)).toList := by
    intro ts
    induction ts with
    | nil => rfl
    | cons t ts ih =>
      obtain ⟨k, spaced⟩ := t
      rw [tailAtoms_cons]
      cases spaced <;> simp [ih]
  cases line with
  | nil => rfl
  | cons t line => simp [tokenAtoms, tokensText, htail]

/-- The tokens after the first one of a line are read back, and so is the first one before them. -/
theorem spelled_tailAtoms {t : BodyToken} {line : Line}
    (hclosed : ∀ u ∈ t :: line, u.kind.Closed) (hchain : (t :: line).IsChain Neighbours) :
    t.kind.ReadsBefore (firstChar (tailAtoms line) (some '\n')) ∧
      Spelled (tailAtoms line) (some '\n') := by
  induction line generalizing t with
  | nil => exact ⟨hclosed t (by simp) _ (by decide), trivial⟩
  | cons u line ih =>
    obtain ⟨hneigh, hchain⟩ := List.isChain_cons_cons.1 hchain
    obtain ⟨hread, hspelled⟩ := ih (fun v hv ↦ hclosed v (List.mem_cons_of_mem _ hv)) hchain
    rw [tailAtoms_cons]
    cases hu : u.spaced with
    | true =>
      refine ⟨?_, .inl rfl, hread, hspelled⟩
      show t.kind.ReadsBefore (some ' ')
      exact hclosed t (by simp) _ (by decide)
    | false =>
      refine ⟨?_, hread, hspelled⟩
      show t.kind.ReadsBefore (firstChar (.token u.kind :: tailAtoms line) (some '\n'))
      rw [firstChar_token (text_ne_nil_of_readsBefore hread)]
      exact hneigh.reads hu

/-- **Each token of the line is read back in front of what is printed after it.** -/
structure Line.Legible (line : Line) : Prop where
  /-- The first token has nothing before it. -/
  first : ∀ t ∈ line.head?, t.spaced = false
  /-- There are no line breaks. -/
  plain : ∀ t ∈ line, t.kind ≠ .newline ∧ t.kind ≠ .eof
  /-- The tokens are read back in front of a line break. -/
  spelled : ∀ more, SpelledAt (tokenAtoms line) ('\n' :: more)

theorem Line.legible_nil : Line.Legible [] := ⟨by simp, by simp, fun _ ↦ trivial⟩

/-- Each token of a sound line may be set apart, so it is read back with a blank after it or
without. -/
theorem Line.Sound.legible {line : Line} (h : line.Sound) : line.Legible := by
  refine ⟨h.first, fun t ht ↦ (h.closed t ht).2, fun more ↦ ?_⟩
  cases line with
  | nil => trivial
  | cons t line =>
    exact Spelled.spelledAt (spelled_tailAtoms (fun u hu ↦ (h.closed u hu).1) h.chain)

/-- The rest of a line is read as the rest of the line. -/
theorem splitLines_tailAtoms {line : Line} (h : ∀ t ∈ line, t.kind ≠ .newline) (as : List Atom) :
    splitLines (some false) (tailAtoms line ++ .token .newline :: as) =
      (line, (splitLines none as).1 :: (splitLines none as).2) := by
  induction line with
  | nil => simp
  | cons t line ih =>
    obtain ⟨k, spaced⟩ := t
    have hk : k ≠ .newline := h _ (List.mem_cons_self ..)
    have ih := ih fun u hu ↦ h u (List.mem_cons_of_mem _ hu)
    rw [tailAtoms_cons]
    cases spaced with
    | true =>
      show splitLines (some false) (.blank ' ' :: .token k ::
        (tailAtoms line ++ .token .newline :: as)) = _
      rw [splitLines_blank, splitLines_token hk, ih]
      rfl
    | false =>
      show splitLines (some false) (.token k :: (tailAtoms line ++ .token .newline :: as)) = _
      rw [splitLines_token hk, ih]
      rfl

/-- Blanks in front of a line. -/
theorem splitLines_blanks (gap : Option Bool) (n : Nat) (c : Char) (as : List Atom) :
    splitLines gap (List.replicate (n + 1) (.blank c) ++ as) =
      splitLines (gap.map fun _ ↦ true) as := by
  induction n generalizing gap with
  | zero => simp
  | succ n ih =>
    rw [List.replicate_succ, List.cons_append, splitLines_blank, ih]
    cases gap <;> rfl

theorem splitLines_tabs (n : Nat) (c : Char) (as : List Atom) :
    splitLines none (List.replicate n (.blank c) ++ as) = splitLines none as := by
  cases n with
  | zero => rfl
  | succ n => exact splitLines_blanks none n c as

/-- **The atoms are printed for the line**: they are read back in front of a line break, and the
line that they are read as is the given one. -/
structure PrintedFor (line : Line) (as : List Atom) : Prop where
  /-- They are read back in front of a line break. -/
  spelled : ∀ more, SpelledAt as ('\n' :: more)
  /-- They have the tokens of the line. -/
  kinds_eq : kinds as = line.map BodyToken.kind
  /-- They are read as the line. -/
  split : ∀ bs, splitLines none (as ++ .token .newline :: bs) =
    (line, (splitLines none bs).1 :: (splitLines none bs).2)

theorem spelled_blanks (n : Nat) {c : Char} (hc : c = ' ' ∨ c = '\t') {as : List Atom}
    {next : Option Char} (h : Spelled as next) :
    Spelled (List.replicate n (.blank c) ++ as) next := by
  induction n with
  | zero => exact h
  | succ n ih =>
    rw [List.replicate_succ, List.cons_append]
    exact ⟨hc, ih⟩

theorem spelledAt_blanks (n : Nat) {c : Char} (hc : c = ' ' ∨ c = '\t') {as : List Atom}
    {rest : List Char} (h : SpelledAt as rest) :
    SpelledAt (List.replicate n (.blank c) ++ as) rest := by
  induction n with
  | zero => exact h
  | succ n ih =>
    rw [List.replicate_succ, List.cons_append]
    exact ⟨hc, ih⟩

theorem atomsText_blanks (n : Nat) (c : Char) :
    atomsText (List.replicate n (.blank c)) = List.replicate n c := by
  induction n with
  | zero => rfl
  | succ n ih => rw [List.replicate_succ, atomsText_blank, ih, List.replicate_succ]

theorem kinds_blanks (n : Nat) (c : Char) : kinds (List.replicate n (.blank c)) = [] := by
  induction n with
  | zero => rfl
  | succ n ih => rw [List.replicate_succ, kinds_blank, ih]

/-- The indentation of a line is not read. -/
theorem PrintedFor.tabs {line : Line} {as : List Atom} (h : PrintedFor line as) (n : Nat) :
    PrintedFor line (List.replicate n (.blank '\t') ++ as) where
  spelled more := spelledAt_blanks n (.inr rfl) (h.spelled more)
  kinds_eq := by rw [kinds_append, kinds_blanks, List.nil_append, h.kinds_eq]
  split bs := by rw [List.append_assoc, splitLines_tabs, h.split]

/-- A line that is not keyed. -/
theorem Line.Legible.printedFor_tokenAtoms {line : Line} (h : line.Legible) :
    PrintedFor line (tokenAtoms line) := by
  refine ⟨h.spelled, ?_, fun bs ↦ ?_⟩
  · cases line with
    | nil => rfl
    | cons t line => simp [tokenAtoms, kinds_tailAtoms]
  · cases line with
    | nil => exact splitLines_newline none bs
    | cons t line =>
      obtain ⟨k, spaced⟩ := t
      obtain rfl : spaced = false := h.first ⟨k, spaced⟩ rfl
      rw [tokenAtoms, List.cons_append, splitLines_token (h.plain _ (List.mem_cons_self ..)).1,
        splitLines_tailAtoms fun u hu ↦ (h.plain u (List.mem_cons_of_mem _ hu)).1]
      rfl

/-- The atoms after the first one of a part of a line. -/
theorem Line.Legible.spelledAt_drop {t u v : BodyToken} {line : Line}
    (h : Line.Legible (t :: u :: v :: line)) (more : List Char) :
    SpelledAt (tokenAtoms (v :: line)) ('\n' :: more) := by
  have htail := (h.spelled more).2
  rw [tailAtoms_cons, tailAtoms_cons, spelledAt_append] at htail
  exact ((spelledAt_append ..).1 htail.2.2).2

/-- An identifier that is read back anywhere is read back in front of a colon. -/
theorem readsBefore_colon_of_readsAt {name : String} {rest : List Char}
    (h : (Kind.ident name).ReadsAt rest) : (Kind.ident name).ReadsBefore (some ':') := by
  obtain ⟨c, cs, -, -, hlex⟩ := h
  obtain ⟨hident, hkeyword⟩ := isIdentifier_of_lexeme hlex rfl
  exact readsBefore_ident hident hkeyword (by decide)

/-- A keyed line, its value any number of blanks after the colon. -/
theorem Line.Legible.printedFor_keyed {key : String} {a b : Bool} {t : BodyToken} {line : Line}
    (h : Line.Legible (⟨.ident key, a⟩ :: ⟨.colon, b⟩ :: t :: line)) (pad : Nat) :
    PrintedFor (⟨.ident key, a⟩ :: ⟨.colon, false⟩ :: ⟨t.kind, true⟩ :: line)
      (.token (.ident key) :: .token .colon ::
        (List.replicate (pad + 1) (.blank ' ') ++ tokenAtoms (t :: line))) := by
  have hplain : ∀ u ∈ t :: line, u.kind ≠ .newline := fun u hu ↦
    (h.plain u (List.mem_cons_of_mem _ (List.mem_cons_of_mem _ hu))).1
  obtain rfl : a = false := h.first ⟨.ident key, a⟩ rfl
  refine ⟨fun more ↦ ⟨?_, ?_, ?_⟩, ?_, fun bs ↦ ?_⟩
  · exact readsBefore_colon_of_readsAt (h.spelled more).1 _ rfl
  · exact closed_symbol (k := .colon) (by decide) (some ' ') (by decide) _
      (by rw [List.replicate_succ]; rfl)
  · exact spelledAt_blanks _ (.inl rfl) (h.spelledAt_drop more)
  · simp [tokenAtoms, kinds_blanks, kinds_tailAtoms]
  · rw [List.cons_append, List.cons_append, splitLines_token (by simp), splitLines_token (by simp),
      List.append_assoc, splitLines_blanks, tokenAtoms, List.cons_append,
      splitLines_token (hplain _ (List.mem_cons_self ..)),
      splitLines_tailAtoms fun u hu ↦ hplain u (List.mem_cons_of_mem _ hu)]
    rfl

/-! ### Printed lines -/

/-- What is printed for a line: nothing for a blank one, and else the line at some indentation, its
value some blanks after its key. -/
def PrintsAs (line : Line) : Option PrintedLine → Prop
  | none => line = []
  | some l => ∃ indent pad, l = { PrintedLine.ofLine indent line with pad := pad + 1 }

/-- The lines of the form `key: value,`. -/
theorem keyOf?_eq_some {line : Line} {key : String} (h : keyOf? line = some key) :
    ∃ a b t rest, line = ⟨.ident key, a⟩ :: ⟨.colon, b⟩ :: t :: rest := by
  unfold keyOf? at h
  split at h
  · rename_i name a b rest
    split at h
    · rename_i hcond
      obtain rfl := Option.some.inj h
      cases rest with
      | nil => simp at hcond
      | cons t rest => exact ⟨a, b, t, rest, rfl⟩
    · cases h
  · cases h

/-- What a line is read as after it was printed: in a line `key: value,` the colon touches the key,
and the value does not touch the colon. -/
def Line.tuned : Line → Line
  | ⟨.ident key, a⟩ :: ⟨.colon, b⟩ :: value :: rest =>
    if key ≠ "case" ∧ key ≠ "default" ∧
        ((value :: rest).getLast (List.cons_ne_nil _ _)).kind = .comma then
      ⟨.ident key, a⟩ :: ⟨.colon, false⟩ :: ⟨value.kind, true⟩ :: rest
    else ⟨.ident key, a⟩ :: ⟨.colon, b⟩ :: value :: rest
  | line => line

/-- The lines that are tuned are those with a key. -/
theorem Line.tuned_of_keyOf?_eq_none {line : Line} (h : keyOf? line = none) :
    line.tuned = line := by
  unfold tuned
  split
  · rename_i key a b value rest
    refine if_neg fun hcond ↦ ?_
    rw [keyOf?, if_pos] at h
    · cases h
    · simpa [List.getLast?_eq_some_getLast] using hcond
  · rfl

/-- In a line with a key, the two flags are set. -/
theorem Line.tuned_of_keyOf?_eq_some {line : Line} {key : String} (h : keyOf? line = some key) :
    ∃ a b t rest, line = ⟨.ident key, a⟩ :: ⟨.colon, b⟩ :: t :: rest ∧
      line.tuned = ⟨.ident key, a⟩ :: ⟨.colon, false⟩ :: ⟨t.kind, true⟩ :: rest := by
  obtain ⟨a, b, t, rest, rfl⟩ := keyOf?_eq_some h
  refine ⟨a, b, t, rest, rfl, if_pos ?_⟩
  rw [keyOf?] at h
  split at h
  · rename_i hcond
    simpa [List.getLast?_eq_some_getLast] using hcond
  · cases h

/-- What does not depend on the two flags is the same for a tuned line. -/
theorem Line.congr_tuned {α : Type} {f : Line → α}
    (h : ∀ key a b t rest, keyOf? (⟨.ident key, a⟩ :: ⟨.colon, b⟩ :: t :: rest) = some key →
      f (⟨.ident key, a⟩ :: ⟨.colon, false⟩ :: ⟨t.kind, true⟩ :: rest) =
        f (⟨.ident key, a⟩ :: ⟨.colon, b⟩ :: t :: rest)) (line : Line) :
    f line.tuned = f line := by
  cases hkey : keyOf? line with
  | none => rw [tuned_of_keyOf?_eq_none hkey]
  | some key =>
    obtain ⟨a, b, t, rest, rfl, htuned⟩ := tuned_of_keyOf?_eq_some hkey
    rw [htuned]
    exact h key a b t rest hkey

/-- A tuned line has the same tokens. -/
theorem Line.map_kind_tuned (line : Line) :
    line.tuned.map BodyToken.kind = line.map BodyToken.kind :=
  congr_tuned (fun _ _ _ _ _ _ ↦ rfl) line

theorem Line.isEmpty_tuned (line : Line) : line.tuned.isEmpty = line.isEmpty :=
  congr_tuned (fun _ _ _ _ _ _ ↦ rfl) line

/-- A sound line has its colons in place. -/
theorem Line.Sound.tuned_eq {line : Line} (h : line.Sound) : line.tuned = line := by
  cases hkey : keyOf? line with
  | none => exact tuned_of_keyOf?_eq_none hkey
  | some key =>
    obtain ⟨a, b, t, rest, rfl, htuned⟩ := tuned_of_keyOf?_eq_some hkey
    obtain ⟨hcolon, hchain⟩ := List.isChain_cons_cons.1 h.chain
    have hvalue := (List.isChain_cons_cons.1 hchain).1
    obtain rfl : b = false := hcolon.colon rfl
    rw [htuned, ← hvalue.value rfl]

/-- **What is printed for a legible line is read as the line, tuned.** -/
theorem PrintsAs.exists_atoms {line : Line} {printed : Option PrintedLine}
    (hp : PrintsAs line printed) (h : line.Legible) :
    ∃ as, atomsText as = ((printed.map PrintedLine.render).getD "").toList ∧
      PrintedFor line.tuned as := by
  cases printed with
  | none =>
    obtain rfl : line = [] := hp
    exact ⟨[], rfl, h.printedFor_tokenAtoms⟩
  | some l =>
    obtain ⟨indent, pad, rfl⟩ := hp
    cases hkey : keyOf? line with
    | none =>
      rw [Line.tuned_of_keyOf?_eq_none hkey]
      refine ⟨List.replicate indent (.blank '\t') ++ tokenAtoms line, ?_,
        h.printedFor_tokenAtoms.tabs indent⟩
      simp [PrintedLine.ofLine, hkey, PrintedLine.render, atomsText_blanks, atomsText_tokenAtoms]
    | some key =>
      obtain ⟨a, b, t, rest, rfl, htuned⟩ := Line.tuned_of_keyOf?_eq_some hkey
      rw [htuned]
      refine ⟨_, ?_, (h.printedFor_keyed pad).tabs indent⟩
      simp [PrintedLine.ofLine, hkey, PrintedLine.render, atomsText_blanks, atomsText_tokenAtoms,
        Kind.text]

/-- A line may be printed at any indentation. -/
theorem printsAs_ofLine (indent : Nat) (line : Line) :
    PrintsAs line (some (PrintedLine.ofLine indent line)) := by
  refine ⟨indent, 0, ?_⟩
  unfold PrintedLine.ofLine
  split <;> rfl

/-- The layout prints each line at some indentation. -/
theorem forall₂_layoutFrom (n : Nesting) (lines : List Line) :
    List.Forall₂ PrintsAs lines (layoutFrom n lines) := by
  induction lines generalizing n with
  | nil => exact .nil
  | cons line lines ih =>
    rw [layoutFrom]
    split
    · exact .cons (List.isEmpty_iff.1 ‹_›) (ih n)
    · exact .cons (printsAs_ofLine _ line) (ih _)

/-! ### Lining up -/

/-- No key is longer than the longest one. -/
theorem le_foldl_max {xs : List Nat} {x : Nat} (h : x ∈ xs) (start : Nat) :
    x ≤ xs.foldl max start := by
  have hstart : ∀ (ys : List Nat) (m : Nat), m ≤ ys.foldl max m := by
    intro ys
    induction ys with
    | nil => exact fun m ↦ le_refl m
    | cons y ys ih => exact fun m ↦ (le_max_left m y).trans (ih (max m y))
  induction xs generalizing start with
  | nil => simp at h
  | cons y ys ih =>
    rcases List.mem_cons.1 h with rfl | h
    · exact (le_max_right start x).trans (hstart ys _)
    · exact ih h _

/-- No key of a run is wider than its column. -/
theorem keyLength_le_keyWidth {run : List (Option PrintedLine)} {l : PrintedLine}
    (h : some l ∈ run) : l.keyLength ≤ keyWidth run :=
  le_foldl_max (List.mem_filterMap.2 ⟨_, h, rfl⟩) 0

/-- In a column that is wide enough for the key there is still a blank before the value. -/
theorem PrintsAs.toColumn {line : Line} {l : PrintedLine} {width : Nat}
    (h : PrintsAs line (some l)) (hle : l.keyLength ≤ width) :
    PrintsAs line (some (l.toColumn width)) := by
  obtain ⟨indent, pad, rfl⟩ := h
  unfold PrintedLine.toColumn
  split
  · generalize PrintedLine.keyLength _ = length at hle ⊢
    refine ⟨indent, width - length, ?_⟩
    rw [show 1 + width - length = width - length + 1 by omega]
  · exact ⟨indent, pad, rfl⟩

/-- Lining up the values of a run leaves at least one blank before each of them. -/
theorem forall₂_alignRun {lines : List Line} {run : List (Option PrintedLine)}
    (h : List.Forall₂ PrintsAs lines run) : List.Forall₂ PrintsAs lines (alignRun run) := by
  have hwidth : ∀ l, some l ∈ run → l.keyLength ≤ keyWidth run := fun _ ↦ keyLength_le_keyWidth
  rw [alignRun]
  -- The column is that of the whole run, also for the lines at its end.
  generalize keyWidth run = width at hwidth ⊢
  induction h with
  | nil => exact .nil
  | @cons line printed lines run hp _ ih =>
    refine .cons ?_ (ih fun l hl ↦ hwidth l (List.mem_cons_of_mem _ hl))
    cases printed with
    | none => exact hp
    | some l => exact hp.toColumn (hwidth l (List.mem_cons_self ..))

/-- **Lining up changes nothing that is read.** -/
theorem forall₂_alignKeys {lines : List Line} {printed : List (Option PrintedLine)}
    (h : List.Forall₂ PrintsAs lines printed) :
    List.Forall₂ PrintsAs lines (alignKeys printed) := by
  have hruns : ∀ (runs : List (List (Option PrintedLine))) (lines : List Line),
      List.Forall₂ PrintsAs lines runs.flatten →
        List.Forall₂ PrintsAs lines (runs.flatMap alignRun) := by
    intro runs
    induction runs with
    | nil => exact fun _ h ↦ h
    | cons run runs ih =>
      intro lines h
      rw [List.flatten_cons] at h
      have htake := List.forall₂_take_append lines run runs.flatten h
      have hdrop := List.forall₂_drop_append lines run runs.flatten h
      rw [List.flatMap_cons, ← List.take_append_drop run.length lines]
      exact List.rel_append (forall₂_alignRun htake) (ih _ hdrop)
  refine hruns (printed.splitBy sameRun) lines ?_
  rw [List.flatten_splitBy]
  exact h

/-! ### Bodies -/

namespace Block

/-- **A body whose tokens are read back as they are printed.** -/
structure Legible (b : Block) : Prop where
  /-- So are those of its lines. -/
  lines : ∀ line ∈ b.lines, line.Legible
  /-- The brackets match. -/
  balanced : depthAfter 0 (b.lines.flatten.map BodyToken.kind) = some 0
  /-- The blank lines are settled. -/
  settled : ofLines ([] :: (b.lines ++ [[]])) = b

theorem Sound.legible {b : Block} (h : b.Sound) : b.Legible :=
  ⟨fun line hline ↦ (h.lines line hline).legible, h.balanced, h.settled⟩

/-- What a body is read as after it was printed. -/
def tuned (b : Block) : Block := ⟨b.lines.map Line.tuned⟩

theorem Sound.tuned_eq {b : Block} (h : b.Sound) : b.tuned = b := by
  have hlines : b.lines.map Line.tuned = b.lines := by
    conv_rhs => rw [← List.map_id b.lines]
    exact List.map_congr_left fun line hline ↦ (h.lines line hline).tuned_eq
  rw [tuned, hlines]

/-- **The text of a legible body has atoms whose lines are those of the body, tuned**, between two
line breaks. -/
theorem Legible.exists_atoms_text {b : Block} (h : b.Legible) :
    ∃ as, atomsText as = b.text.toList ∧ (∀ rest, SpelledAt as rest) ∧
      (kinds as).filter (· ≠ .newline) = b.lines.flatten.map BodyToken.kind ∧
      (splitLines none as).1 :: (splitLines none as).2 = b.tuned.lines ++ [[]] := by
  have hprinted := forall₂_alignKeys (forall₂_layoutFrom .none b.lines)
  have hlines := h.lines
  unfold Block.text tuned
  generalize alignKeys (layoutFrom .none b.lines) = printed at hprinted
  generalize b.lines = lines at hprinted hlines
  induction hprinted with
  | nil => exact ⟨[], rfl, fun _ ↦ trivial, rfl, rfl⟩
  | @cons line p lines printed hp _ ih =>
    have hline := hlines line (List.mem_cons_self ..)
    obtain ⟨as, htext, has⟩ := hp.exists_atoms hline
    obtain ⟨bs, hbtext, hbspelled, hbkinds, hbsplit⟩ :=
      ih fun l hl ↦ hlines l (List.mem_cons_of_mem _ hl)
    refine ⟨as ++ .token .newline :: bs, ?_, fun rest ↦ ?_, ?_, ?_⟩
    · rw [atomsText_append, htext, atomsText_token, hbtext]
      simp [Kind.text]
    · exact (spelledAt_append ..).2
        ⟨has.spelled _, readsBefore_newline _ _ rfl, hbspelled rest⟩
    · have hkept : (line.map BodyToken.kind).filter (· ≠ .newline) = line.map BodyToken.kind := by
        refine List.filter_eq_self.2 fun k hk ↦ ?_
        obtain ⟨t, ht, rfl⟩ := List.mem_map.1 hk
        exact decide_eq_true (hline.plain t ht).1
      rw [kinds_append, has.kinds_eq, line.map_kind_tuned, List.filter_append, hkept, kinds_token,
        List.filter_cons_of_neg (by simp), hbkinds, List.flatten_cons, List.map_append]
    · rw [has.split, hbsplit, List.map_cons, List.cons_append]

/-- Tuning leaves blank lines alone. -/
theorem settle_map_tuned (gap : Bool) (lines : List Line) :
    settle gap (lines.map Line.tuned) = (settle gap lines).map Line.tuned := by
  fun_induction settle gap lines with
  | case1 => rfl
  | case2 gap line lines hempty ih =>
    rw [List.map_cons, settle, Line.isEmpty_tuned, if_pos hempty, ih]
  | case3 line lines hline ih =>
    rw [List.map_cons, settle, Line.isEmpty_tuned, if_neg hline, if_pos rfl, ih]
    rfl
  | case4 gap line lines hline hgap ih =>
    rw [List.map_cons, settle, Line.isEmpty_tuned, if_neg hline, if_neg hgap, ih]
    rfl

/-- A body may be tuned before or after its blank lines are settled. -/
theorem ofLines_map_tuned (lines : List Line) :
    ofLines (lines.map Line.tuned) = (ofLines lines).tuned := by
  have hdrop : (lines.map Line.tuned).dropWhile List.isEmpty =
      (lines.dropWhile List.isEmpty).map Line.tuned := by
    rw [List.dropWhile_map, show List.isEmpty ∘ Line.tuned = List.isEmpty from
      funext Line.isEmpty_tuned]
  rw [ofLines, hdrop, settle_map_tuned]
  rfl

theorem Legible.settled_tuned {b : Block} (h : b.Legible) :
    ofLines ([] :: (b.tuned.lines ++ [[]])) = b.tuned := by
  have hmap := ofLines_map_tuned ([] :: (b.lines ++ [[]]))
  rw [h.settled, List.map_cons, List.map_append] at hmap
  exact hmap

end Block

/-! ### The text of a tuned body -/

/-- The nesting depends on the tokens of a line. -/
theorem Nesting.after_tuned (n : Nesting) (line : Line) : n.after line.tuned = n.after line :=
  Line.congr_tuned (fun _ _ _ _ _ _ ↦ rfl) line

theorem Nesting.indent_tuned (n : Nesting) (line : Line) : n.indent line.tuned = n.indent line :=
  Line.congr_tuned (fun _ _ _ _ _ _ ↦ rfl) line

theorem isMark_tuned (line : Line) : isMark line.tuned = isMark line := by
  refine Line.congr_tuned (fun key a b t rest _ ↦ ?_) line
  cases rest <;> simp [isMark, endsWithColon]

/-- A tuned line has the same key, and the same text after it. -/
theorem ofLine_tuned (indent : Nat) (line : Line) :
    PrintedLine.ofLine indent line.tuned = PrintedLine.ofLine indent line := by
  refine Line.congr_tuned (fun key a b t rest hkey ↦ ?_) line
  have hkey' :
      keyOf? (⟨.ident key, a⟩ :: ⟨.colon, false⟩ :: ⟨t.kind, true⟩ :: rest) = some key := by
    rw [← hkey]
    cases rest <;> simp [keyOf?]
  rw [PrintedLine.ofLine, PrintedLine.ofLine, hkey, hkey']
  rfl

theorem layoutFrom_map_tuned (n : Nesting) (lines : List Line) :
    layoutFrom n (lines.map Line.tuned) = layoutFrom n lines := by
  induction lines generalizing n with
  | nil => rfl
  | cons line lines ih =>
    simp only [List.map_cons, layoutFrom, Line.isEmpty_tuned, isMark_tuned, ofLine_tuned,
      Nesting.indent_tuned, Nesting.after_tuned, ih]

/-- **A tuned body has the same text.** -/
theorem Block.text_tuned (b : Block) : b.tuned.text = b.text := by
  rw [text, text, tuned, layoutFrom_map_tuned]

end GoDecorator
