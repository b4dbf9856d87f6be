import Mathlib.Data.List.Pairwise
import GoDecorator.Proofs.Decl.Layout

/-!
# Columns

Two things are lined up when declarations are printed: the values of neighbouring `key: value,`
lines of a function body, and the types of the fields of a struct.

For the first, the lines are cut into runs (`IsCut`). A line without a key is a run of its own, and
lines with keys are in one run as long as they follow each other at the same indentation. The runs
are maximal, which leaves **only one way to cut** (`isCut_iff`). In each run the values are put into
one column, which is as far to the left as the longest key allows (`LinedUp`). Nothing but the
number of blanks before a value is changed, and the subtraction by which this number is found is
never cut off at zero (`exists_column_of_keyed`).

The fields of a struct are one such run.
-/

namespace GoDecorator

/-- The longest of several lengths is one of them. -/
theorem foldl_max_mem {xs : List Nat} (hne : xs ≠ []) : xs.foldl max 0 ∈ xs := by
  have hfrom : ∀ (ys : List Nat) (m : Nat), ys.foldl max m ∈ m :: ys := by
    intro ys
    induction ys with
    | nil => exact fun m ↦ List.mem_singleton_self m
    | cons y ys ih =>
      intro m
      rcases List.mem_cons.1 (ih (max m y)) with h | h
      · rw [List.foldl_cons, h]
        rcases Nat.le_total m y with hm | hm <;> simp [hm]
      · exact List.mem_cons_of_mem _ (List.mem_cons_of_mem _ h)
  cases xs with
  | nil => exact absurd rfl hne
  | cons x xs =>
    rw [List.foldl_cons, Nat.zero_max]
    exact hfrom xs x

/-! ### Runs -/

/-- The indentation of a line with a key. -/
def keyedIndent? (line : Option PrintedLine) : Option Nat :=
  line.bind fun l ↦ if l.key.isSome then some l.indent else none

theorem keyedIndent?_eq_some_iff {line : Option PrintedLine} {indent : Nat} :
    keyedIndent? line = some indent ↔
      ∃ l, line = some l ∧ l.key.isSome = true ∧ l.indent = indent := by
  cases line with
  | none => simp [keyedIndent?]
  | some l => simp [keyedIndent?]

/-- Two lines have keys and stand at the same indentation. -/
def SameLevel (a b : Option PrintedLine) : Prop :=
  ∃ indent, keyedIndent? a = some indent ∧ keyedIndent? b = some indent

theorem sameRun_eq_true_iff {a b : Option PrintedLine} : sameRun a b = true ↔ SameLevel a b := by
  match a, b with
  | none, _ => simp [sameRun, SameLevel, keyedIndent?]
  | some _, none => simp [sameRun, SameLevel, keyedIndent?]
  | some a, some b =>
    simp only [sameRun, Bool.and_eq_true, beq_iff_eq, SameLevel, keyedIndent?_eq_some_iff,
      Option.some.injEq]
    constructor
    · rintro ⟨⟨ha, hb⟩, hindent⟩
      exact ⟨a.indent, ⟨a, rfl, ha, rfl⟩, b, rfl, hb, hindent.symm⟩
    · rintro ⟨_, ⟨_, rfl, ha, rfl⟩, _, rfl, hb, hindent⟩
      exact ⟨⟨ha, hb⟩, hindent.symm⟩

/-- **A run**: one line without a key, or lines with keys at the same indentation. -/
inductive IsRun : List (Option PrintedLine) → Prop
  | single {line : Option PrintedLine} (h : keyedIndent? line = none) : IsRun [line]
  | keyed {run : List (Option PrintedLine)} {indent : Nat} (hne : run ≠ [])
    (h : ∀ line ∈ run, keyedIndent? line = some indent) : IsRun run

/-- The runs into which lines are cut, one after the other. -/
structure IsCut (lines : List (Option PrintedLine)) (runs : List (List (Option PrintedLine))) :
    Prop where
  /-- Together they are the lines. -/
  lines_eq : lines = runs.flatten
  /-- Each of them is a run. -/
  isRun : ∀ run ∈ runs, IsRun run
  /-- No two neighbours make up a longer run. -/
  maximal : runs.IsChain fun r s ↦ ∃ hr hs, ¬ SameLevel (r.getLast hr) (s.head hs)

theorem IsRun.ne_nil {run : List (Option PrintedLine)} (h : IsRun run) : run ≠ [] := by
  cases h with
  | single => exact List.cons_ne_nil _ _
  | keyed hne => exact hne

/-- Lines with keys go on at the indentation of the first one. -/
theorem keyedIndent?_of_isChain {line : Option PrintedLine} {lines : List (Option PrintedLine)}
    (h : (line :: lines).IsChain SameLevel) {indent : Nat}
    (hline : keyedIndent? line = some indent) :
    ∀ l ∈ line :: lines, keyedIndent? l = some indent := by
  induction lines generalizing line with
  | nil => exact List.forall_mem_singleton.2 hline
  | cons next lines ih =>
    obtain ⟨⟨indent', hl, hnext⟩, hrest⟩ := List.isChain_cons_cons.1 h
    obtain rfl := Option.some.inj (hl.symm.trans hline)
    exact List.forall_mem_cons.2 ⟨hline, ih hrest hnext⟩

theorem isRun_iff {run : List (Option PrintedLine)} :
    IsRun run ↔ run ≠ [] ∧ run.IsChain SameLevel := by
  constructor
  · intro h
    refine ⟨h.ne_nil, ?_⟩
    cases h with
    | single => exact List.isChain_singleton _
    | @keyed _ indent _ hrun =>
      exact (List.pairwise_of_forall_mem_list fun a ha b hb ↦
        ⟨indent, hrun a ha, hrun b hb⟩).isChain
  · rintro ⟨hne, hchain⟩
    match run, hne with
    | [line], _ =>
      cases hline : keyedIndent? line with
      | none => exact .single hline
      | some indent => exact .keyed (List.cons_ne_nil _ _) (List.forall_mem_singleton.2 hline)
    | line :: next :: lines, _ =>
      obtain ⟨indent, hline, -⟩ := (List.isChain_cons_cons.1 hchain).1
      exact .keyed (List.cons_ne_nil _ _) (keyedIndent?_of_isChain hchain hline)

/-- **There is only one way to cut lines into runs**, and the printer finds it. -/
theorem isCut_iff {lines : List (Option PrintedLine)} {runs : List (List (Option PrintedLine))} :
    IsCut lines runs ↔ lines.splitBy sameRun = runs := by
  have hlevel : (fun a b ↦ sameRun a b = true) = SameLevel :=
    funext₂ fun _ _ ↦ propext sameRun_eq_true_iff
  have hbreak : ∀ r s : List (Option PrintedLine),
      (∃ hr hs, sameRun (r.getLast hr) (s.head hs) = false) ↔
        ∃ hr hs, ¬ SameLevel (r.getLast hr) (s.head hs) := fun r s ↦
    exists₂_congr fun _ _ ↦ by rw [← sameRun_eq_true_iff, Bool.not_eq_true]
  rw [List.splitBy_eq_iff, hlevel, List.IsChain.iff hbreak]
  constructor
  · rintro ⟨hlines, hrun, hmaximal⟩
    exact ⟨hlines, fun hnil ↦ (hrun [] hnil).ne_nil rfl,
      fun run hmem ↦ (isRun_iff.1 (hrun run hmem)).2, hmaximal⟩
  · rintro ⟨hlines, hnil, hchain, hmaximal⟩
    exact ⟨hlines, fun run hmem ↦ isRun_iff.2 ⟨fun h ↦ hnil (h ▸ hmem), hchain run hmem⟩, hmaximal⟩

/-! ### Lining up -/

/-- The line without its blanks before the value. -/
def PrintedLine.unpadded (l : PrintedLine) : PrintedLine := { l with pad := 0 }

/-- **The values of a run are lined up.** -/
structure LinedUp (run out : List (Option PrintedLine)) : Prop where
  /-- Nothing but the blanks before the values is changed. -/
  unpadded_eq :
    out.map (Option.map PrintedLine.unpadded) = run.map (Option.map PrintedLine.unpadded)
  /-- A line without a key stays as it is. -/
  single : ∀ line, run = [line] → keyedIndent? line = none → out = run
  /-- All values stand in one column, and the longest key is one blank away from it. -/
  column : (∀ line ∈ run, ∃ indent, keyedIndent? line = some indent) → ∃ column,
    (∀ l key, some l ∈ out → l.key = some key → 1 ≤ l.pad ∧ key.length + l.pad = column) ∧
      ∃ l key, some l ∈ out ∧ l.key = some key ∧ l.pad = 1

theorem PrintedLine.unpadded_toColumn (width : Nat) (l : PrintedLine) :
    (l.toColumn width).unpadded = l.unpadded := by
  unfold toColumn
  split <;> rfl

theorem PrintedLine.keyLength_eq {l : PrintedLine} {key : String} (h : l.key = some key) :
    l.keyLength = key.length := by
  rw [keyLength, h]
  rfl

/-- The longest key of a run belongs to one of its lines. -/
theorem exists_keyLength_eq_keyWidth {run : List (Option PrintedLine)} {l : PrintedLine}
    (h : some l ∈ run) : ∃ l', some l' ∈ run ∧ l'.keyLength = keyWidth run := by
  have hmem : l.keyLength ∈ run.filterMap fun l ↦ l.map PrintedLine.keyLength :=
    List.mem_filterMap.2 ⟨_, h, rfl⟩
  obtain ⟨line, hline, hlength⟩ := List.mem_filterMap.1 (foldl_max_mem (List.ne_nil_of_mem hmem))
  obtain ⟨l', rfl, hl'⟩ := Option.map_eq_some_iff.1 hlength
  exact ⟨l', hline, hl'⟩

/-- **The values of keyed lines are put into one column.** Each key is at most as long as the
longest one, so that the blanks before a value are never too few. -/
theorem exists_column_of_keyed {run : List (Option PrintedLine)} (hne : run ≠ [])
    (hkeyed : ∀ line ∈ run, ∃ l, line = some l ∧ l.key.isSome = true) :
    ∃ column, (∀ l key, some l ∈ alignRun run → l.key = some key →
        1 ≤ l.pad ∧ key.length + l.pad = column) ∧
      ∃ l key, some l ∈ alignRun run ∧ l.key = some key ∧ l.pad = 1 := by
  have hcolumn {l : PrintedLine} (hl : some l ∈ run) :
      l.toColumn (keyWidth run) = { l with pad := 1 + keyWidth run - l.keyLength } := by
    obtain ⟨l', hl', hkey⟩ := hkeyed _ hl
    obtain rfl := Option.some.inj hl'
    exact if_pos hkey
  refine ⟨1 + keyWidth run, fun l' key hl' hkey ↦ ?_, ?_⟩
  · obtain ⟨line, hline, hl'⟩ := List.mem_map.1 hl'
    obtain ⟨l, rfl, -⟩ := hkeyed line hline
    obtain rfl := Option.some.inj hl'
    have hle := keyLength_le_keyWidth hline
    rw [hcolumn hline] at hkey ⊢
    have hlength : l.keyLength = key.length := PrintedLine.keyLength_eq hkey
    show 1 ≤ 1 + keyWidth run - l.keyLength ∧
      key.length + (1 + keyWidth run - l.keyLength) = 1 + keyWidth run
    omega
  · obtain ⟨line, hline⟩ := List.exists_mem_of_ne_nil run hne
    obtain ⟨l, rfl, -⟩ := hkeyed line hline
    obtain ⟨longest, hmem, hlongest⟩ := exists_keyLength_eq_keyWidth hline
    obtain ⟨_, hl', hkey⟩ := hkeyed _ hmem
    obtain rfl := Option.some.inj hl'
    obtain ⟨key, hkey⟩ := Option.isSome_iff_exists.1 hkey
    refine ⟨_, key, List.mem_map.2 ⟨some longest, hmem, rfl⟩, ?_, ?_⟩
    · rw [hcolumn hmem]
      exact hkey
    · rw [hcolumn hmem]
      show 1 + keyWidth run - longest.keyLength = 1
      omega

theorem linedUp_alignRun {run : List (Option PrintedLine)} (hne : run ≠ []) :
    LinedUp run (alignRun run) where
  unpadded_eq := by
    rw [alignRun, List.map_map]
    refine List.map_congr_left fun line _ ↦ ?_
    simp [Function.comp_def, PrintedLine.unpadded_toColumn]
  single := by
    rintro line rfl hline
    cases line with
    | none => rfl
    | some l =>
      have hkey : l.key.isSome = false := by simpa [keyedIndent?] using hline
      simp [alignRun, PrintedLine.toColumn, hkey]
  column hkeyed := by
    refine exists_column_of_keyed hne fun line hline ↦ ?_
    obtain ⟨_, hindent⟩ := hkeyed line hline
    obtain ⟨l, hl, hkey, -⟩ := keyedIndent?_eq_some_iff.1 hindent
    exact ⟨l, hl, hkey⟩

/-- The lines are aligned run by run. -/
theorem exists_linedUp_of_isCut {lines : List (Option PrintedLine)}
    {runs : List (List (Option PrintedLine))} (h : IsCut lines runs) :
    ∃ outs, List.Forall₂ LinedUp runs outs ∧ alignKeys lines = outs.flatten := by
  refine ⟨runs.map alignRun, ?_, ?_⟩
  · refine List.forall₂_map_right_iff.2 (List.forall₂_same.2 fun run hrun ↦ ?_)
    exact linedUp_alignRun (h.isRun run hrun).ne_nil
  · rw [alignKeys, isCut_iff.1 h, List.flatMap_def]

/-! ### Fields of a struct -/

/-- The written form of a field whose type starts in the given column. -/
def Field.textAt (column : Nat) (f : Field) : String :=
  "\t" ++ f.name ++ String.ofList (List.replicate (column - f.name.length) ' ') ++
    f.shape.text ++ "\n"

theorem Field.text_eq_textAt {width : Nat} {f : Field} (h : f.name.length ≤ width) :
    f.text width = f.textAt (width + 1) := by
  have hblanks : List.replicate (width + 1 - f.name.length) ' ' =
      List.replicate (width - f.name.length) ' ' ++ [' '] := by
    rw [Nat.sub_add_comm h, List.replicate_succ']
  rw [Field.text, Field.textAt, hblanks, padRight]
  simp [← String.toList_inj]

/-- The types of the fields stand in one column. -/
theorem exists_column_of_struct {fields : List Field} (hne : fields ≠ []) :
    ∃ column, (∀ f ∈ fields, f.name.length < column) ∧
      (∃ f ∈ fields, f.name.length + 1 = column) ∧
      (TypeExpr.struct fields).text =
        "struct \x7b\n" ++ String.join (fields.map (Field.textAt column)) ++ "\x7d" := by
  have hle : ∀ f ∈ fields, f.name.length ≤ fieldWidth fields := fun f hf ↦ by
    have hmem : f.name.length ∈ fields.map (·.name.length) := List.mem_map.2 ⟨f, hf, rfl⟩
    exact le_foldl_max hmem 0
  obtain ⟨f, hf, hlongest⟩ := List.mem_map.1 (foldl_max_mem (by simpa using hne) :
    fieldWidth fields ∈ fields.map (·.name.length))
  refine ⟨fieldWidth fields + 1, fun f hf ↦ Nat.lt_succ_of_le (hle f hf),
    ⟨f, hf, congrArg (· + 1) hlongest⟩, ?_⟩
  rw [← List.map_congr_left fun f hf ↦ Field.text_eq_textAt (hle f hf)]
  cases fields with
  | nil => exact absurd rfl hne
  | cons f fields => rfl

/-- **Keyed elements line up.** Lines are cut into maximal runs in the one way there is, and in each
run the values are put into one column, one blank after the longest key. Nothing else is changed.
The types of the fields of a struct are put into one column in the same way, one blank after the
longest name. -/
theorem keyed_elements_line_up (lines : List (Option PrintedLine)) (field : Field)
    (fields : List Field) :
    (∃ runs outs, (∀ cut, IsCut lines cut ↔ cut = runs) ∧ List.Forall₂ LinedUp runs outs ∧
      alignKeys lines = outs.flatten) ∧
    ∃ column, (∀ f ∈ field :: fields, f.name.length < column) ∧
      (∃ f ∈ field :: fields, f.name.length + 1 = column) ∧
      (TypeExpr.struct (field :: fields)).text =
        "struct \x7b\n" ++ String.join ((field :: fields).map (Field.textAt column)) ++ "\x7d" := by
  refine ⟨?_, exists_column_of_struct (List.cons_ne_nil _ _)⟩
  obtain ⟨outs, houts, halign⟩ := exists_linedUp_of_isCut (isCut_iff.2 rfl : IsCut lines _)
  exact ⟨_, outs, fun cut ↦ isCut_iff.trans eq_comm, houts, halign⟩

/-- Two keys of different lengths: the shorter one gets the blanks that it lacks. So does the
shorter one of two names of fields. -/
theorem keyed_elements_line_up_logger :
    alignKeys [some ⟨2, some "id", 1, "id,"⟩, some ⟨2, some "logger", 1, "l,"⟩] =
        [some ⟨2, some "id", 5, "id,"⟩, some ⟨2, some "logger", 1, "l,"⟩] ∧
      (TypeExpr.struct [⟨"id", .primitive .int⟩, ⟨"logger", .any⟩]).text =
        "struct \x7b\n\tid     int\n\tlogger interface\x7b\x7d\n\x7d" := by
  obtain ⟨⟨runs, outs, hcut, hlined, halign⟩, width, hlt, hlongest, htext⟩ :=
    keyed_elements_line_up [some ⟨2, some "id", 1, "id,"⟩, some ⟨2, some "logger", 1, "l,"⟩]
      ⟨"id", .primitive .int⟩ [⟨"logger", .any⟩]
  constructor
  · -- The two lines are one run. Its lines are known but for their blanks, which the column gives.
    have hrun : [[some ⟨2, some "id", 1, "id,"⟩, some ⟨2, some "logger", 1, "l,"⟩]] = runs :=
      (hcut _).1 (isCut_iff.2 (by decide))
    subst hrun
    obtain ⟨out, rfl, hout⟩ : ∃ out, outs = [out] ∧ LinedUp _ out := by
      cases hlined with
      | cons hout hnil =>
        cases hnil
        exact ⟨_, rfl, hout⟩
    obtain ⟨first, rest, rfl, hfirst, hrest⟩ := List.map_eq_cons_iff.1 hout.unpadded_eq
    obtain ⟨second, rest, rfl, hsecond, hrest⟩ := List.map_eq_cons_iff.1 hrest
    obtain rfl := List.map_eq_nil_iff.1 hrest
    obtain ⟨⟨_, _, m, _⟩, rfl, hid⟩ := Option.map_eq_some_iff.1 hfirst
    obtain ⟨⟨_, _, n, _⟩, rfl, hlogger⟩ := Option.map_eq_some_iff.1 hsecond
    cases hid
    cases hlogger
    obtain ⟨column, hpads, l, key, hl, -, hpad⟩ := hout.column (by simp [keyedIndent?])
    have hm : 1 ≤ m ∧ 2 + m = column := hpads _ "id" (List.mem_cons_self ..) rfl
    have hn : 1 ≤ n ∧ 6 + n = column :=
      hpads _ "logger" (List.mem_cons_of_mem _ (List.mem_cons_self ..)) rfl
    have hone : m = 1 ∨ n = 1 := by
      simp only [List.mem_cons, Option.some.injEq, List.not_mem_nil, or_false] at hl
      obtain rfl | rfl := hl
      · exact .inl hpad
      · exact .inr hpad
    obtain ⟨rfl, rfl⟩ : m = 5 ∧ n = 1 := by omega
    exact halign
  · have hlogger : 6 < width := hlt ⟨"logger", .any⟩ (by simp)
    obtain ⟨f, hf, hwidth⟩ := hlongest
    simp only [List.mem_cons, List.not_mem_nil, or_false] at hf
    obtain rfl | rfl := hf
    · have hid : 2 + 1 = width := hwidth
      omega
    · obtain rfl : 6 + 1 = width := hwidth
      rw [htext]
      decide

end GoDecorator
