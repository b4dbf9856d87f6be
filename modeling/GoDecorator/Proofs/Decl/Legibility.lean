import GoDecorator.Proofs.Decl.Layout
import GoDecorator.Proofs.Parser.Stretches
import GoDecorator.Proofs.Token.Fading

/-!
# Bodies that were read are legible

A function body may hold any tokens: operators, numbers, literals over several lines and such
without their closing quote, and characters that start no token. **A body that was read from a text
is legible all the same** (`Block.legible_ofLines`): when it is printed, no two of its tokens run
together and none falls apart.

The reason is that each token was read in front of some text, and what is printed after it is the
same text up to some place and then fades: where tokens touched they still do, and a blank stands
where there was a gap. At the end of a line there is a line break, also where a comment or the
closing brace of the body stood before. `TailOf` says this of a line of which the first tokens have
been read.
-/

namespace GoDecorator

open Token

/-! ### One token -/

section BodyLines

variable {opening : Span} {previous : Option Span} {depth : Nat} {t : Token} {ts rest : List Token}
  {line : Line} {lines : List Line}

/-- **What the parser for bodies does with a token**: it ends the line, or the body, or it goes
in front of the rest of the line. -/
theorem bodyLines_cases
    (h : bodyLines opening previous depth (t :: ts) = .ok (line, lines, rest)) :
    (t.kind = .newline ∧ line = [] ∧ ∃ l ls, lines = l :: ls ∧
        bodyLines opening none depth ts = .ok (l, ls, rest)) ∨
      (t.kind = .closing .brace ∧ depth = 0 ∧ line = [] ∧ lines = [] ∧ rest = ts) ∨
        ∃ depth' line', t.kind ≠ .newline ∧ t.kind ≠ .eof ∧
          (∀ ks, depthAfter depth (t.kind :: ks) = depthAfter depth' ks) ∧
          line = .ofToken previous t :: line' ∧
          bodyLines opening (some t.span) depth' ts = .ok (line', lines, rest) := by
  obtain ⟨k, span⟩ := t
  -- A token that belongs to the line is put in front of what is read after it.
  have htake (depth' : Nat) (hnewline : k ≠ .newline) (heof : k ≠ .eof)
      (hdepth : ∀ ks, depthAfter depth (k :: ks) = depthAfter depth' ks)
      (h : (bodyLines opening (some span) depth' ts >>= fun r ↦
        .ok (BodyToken.ofToken previous ⟨k, span⟩ :: r.1, r.2.1, r.2.2)) =
          .ok (line, lines, rest)) :
      ∃ depth' line', k ≠ .newline ∧ k ≠ .eof ∧
        (∀ ks, depthAfter depth (k :: ks) = depthAfter depth' ks) ∧
        line = .ofToken previous ⟨k, span⟩ :: line' ∧
        bodyLines opening (some span) depth' ts = .ok (line', lines, rest) := by
    obtain ⟨⟨line', lines', rest'⟩, hrest, hpair⟩ := exists_of_bind_eq_ok h
    obtain ⟨hline, hpair⟩ := Prod.mk.inj (Except.ok.inj hpair)
    obtain ⟨rfl, rfl⟩ := Prod.mk.inj hpair
    exact ⟨depth', line', hnewline, heof, hdepth, hline.symm, hrest⟩
  rw [bodyLines] at h
  cases k with
  | eof => cases h
  | newline =>
    obtain ⟨⟨l, ls, rest'⟩, hrest, hpair⟩ := exists_of_bind_eq_ok h
    obtain ⟨hline, hpair⟩ := Prod.mk.inj (Except.ok.inj hpair)
    obtain ⟨hlines, rfl⟩ := Prod.mk.inj hpair
    exact .inl ⟨rfl, hline.symm, l, ls, hlines.symm, hrest⟩
  | opening b => exact .inr (.inr (htake (depth + 1) (by simp) (by simp) (fun _ ↦ rfl) h))
  | closing b =>
    cases depth with
    | succ depth => exact .inr (.inr (htake depth (by simp) (by simp) (fun _ ↦ rfl) h))
    | zero =>
      dsimp only at h
      split at h
      next hb =>
        obtain ⟨hline, hpair⟩ := Prod.mk.inj (Except.ok.inj h)
        obtain ⟨hlines, hrest⟩ := Prod.mk.inj hpair
        exact .inr (.inl ⟨by rw [hb], rfl, hline.symm, hlines.symm, hrest.symm⟩)
      next => cases h
  | _ => exact .inr (.inr (htake depth (by simp) (by simp) (fun _ ↦ rfl) h))

/-- The tokens after a body are the last ones of those it was read from. -/
theorem suffix_of_bodyLines (h : bodyLines opening previous depth ts = .ok (line, lines, rest)) :
    rest <:+ ts := by
  induction ts generalizing previous depth line lines with
  | nil => cases h
  | cons t ts ih =>
    rcases bodyLines_cases h with ⟨-, -, l, ls, -, hrest⟩ | ⟨-, -, -, -, rfl⟩ |
      ⟨depth', line', -, -, -, -, hrest⟩
    · exact (ih hrest).trans (List.suffix_cons t ts)
    · exact List.suffix_cons t rest
    · exact (ih hrest).trans (List.suffix_cons t ts)

/-- The brackets in a body match. -/
theorem depthAfter_of_bodyLines
    (h : bodyLines opening previous depth ts = .ok (line, lines, rest)) :
    depthAfter depth ((line ++ lines.flatten).map BodyToken.kind) = some 0 := by
  induction ts generalizing previous depth line lines with
  | nil => cases h
  | cons t ts ih =>
    rcases bodyLines_cases h with ⟨-, rfl, l, ls, rfl, hrest⟩ | ⟨-, rfl, rfl, rfl, -⟩ |
      ⟨depth', line', -, -, hdepth, rfl, hrest⟩
    · rw [List.nil_append, List.flatten_cons]
      exact ih hrest
    · rfl
    · rw [List.cons_append, List.map_cons]
      exact (hdepth _).trans (ih hrest)

end BodyLines

/-! ### One line -/

/-- **The rest of a line that was read from the text.** `previous` is the last token before it, if
there is one on the line, and touches the text. -/
structure TailOf (previous : Option Span) (cs : List Char) (line : Line) : Prop where
  /-- What is printed after a token is what stood there, faded. -/
  fades : previous.isSome = true → ∀ more, Fades cs (atomsText (tailAtoms line) ++ '\n' :: more)
  /-- The first token of a line has nothing before it. -/
  first : previous = none → ∀ t ∈ line.head?, t.spaced = false
  /-- There are no line breaks. -/
  plain : ∀ t ∈ line, t.kind ≠ .newline ∧ t.kind ≠ .eof
  /-- The tokens are read back. -/
  spelled : ∀ more, SpelledAt (tailAtoms line) ('\n' :: more)

theorem TailOf.legible {cs : List Char} {line : Line} (h : TailOf none cs line) : line.Legible := by
  refine ⟨h.first rfl, h.plain, fun more ↦ ?_⟩
  cases line with
  | nil => trivial
  | cons t line =>
    have hspelled := h.spelled more
    rw [tailAtoms_cons, h.first rfl t rfl] at hspelled
    exact hspelled

/-- The end of a line. -/
theorem tailOf_nil {previous : Option Span} {skipped r : List Char} {x : Char}
    (hskipped : ∀ y ∈ skipped.head?, y ∈ [' ', '\t', '\r', '/']) (hx : x ≠ '.') :
    TailOf previous (skipped ++ x :: r) [] := by
  refine ⟨fun _ more ↦ ?_, fun _ ↦ by simp, by simp, fun _ ↦ trivial⟩
  cases skipped with
  | nil => exact .here hx (.inr rfl) fun _ ↦ rfl
  | cons y s =>
    refine .here ?_ (.inr rfl) fun _ ↦ rfl
    rintro rfl
    exact absurd (hskipped '.' rfl) (by decide)

/-- A token in front of the rest of its line. -/
theorem TailOf.cons {previous : Option Span} {offset : Nat}
    (hprevious : ∀ p ∈ previous, p.stop = offset) {t : Token} {skipped rest : List Char}
    (hskipped : ∀ y ∈ skipped.head?, y ∈ [' ', '\t', '\r', '/'])
    (hstart : t.span.start = offset + skipped.length) (hread : t.kind.ReadsAt rest)
    (hplain : t.kind ≠ .newline ∧ t.kind ≠ .eof) {line : Line}
    (h : TailOf (some t.span) rest line) :
    TailOf previous (skipped ++ (t.kind.text.toList ++ rest)) (.ofToken previous t :: line) := by
  have hagain (more : List Char) : t.kind.ReadsAt (atomsText (tailAtoms line) ++ '\n' :: more) :=
    hread.fade (h.fades rfl more)
  refine ⟨fun hsome more ↦ ?_, ?_, ?_, fun more ↦ ?_⟩
  · obtain ⟨p, rfl⟩ := Option.isSome_iff_exists.1 hsome
    have hstop : p.stop = offset := hprevious p rfl
    rw [tailAtoms_cons]
    cases skipped with
    | nil =>
      have htouch : (BodyToken.ofToken (some p) t).spaced = false := by
        simp [BodyToken.ofToken, Span.touches, hstart, hstop]
      rw [htouch]
      show Fades (t.kind.text.toList ++ rest)
        (atomsText (.token t.kind :: tailAtoms line) ++ '\n' :: more)
      rw [atomsText_token, List.append_assoc]
      exact (h.fades rfl more).append _
    | cons y s =>
      have hspaced : (BodyToken.ofToken (some p) t).spaced = true := by
        simp [BodyToken.ofToken, Span.touches, hstart, hstop]
      have hy := hskipped y rfl
      rw [hspaced, if_pos rfl]
      refine .here ?_ (.inl rfl) ?_
      · rintro rfl
        exact absurd hy (by decide)
      · rintro rfl
        exact absurd hy (by decide)
  · rintro rfl u hu
    obtain rfl := Option.some.inj hu
    rfl
  · exact List.forall_mem_cons.2 ⟨hplain, h.plain⟩
  · rw [tailAtoms_cons, spelledAt_append]
    refine ⟨?_, hagain more, h.spelled more⟩
    split
    · exact ⟨.inl rfl, trivial⟩
    · trivial

/-! ### Bodies -/

/-- **The lines of a body that was read from a text are legible.** -/
theorem legible_of_bodyLines {opening : Span} {previous : Option Span}
    {depth offset lineNumber : Nat} {cs : List Char} {ts rest : List Token}
    {line : Line} {lines : List Line}
    (hscan : scanFrom offset lineNumber cs = some ts)
    (h : bodyLines opening previous depth ts = .ok (line, lines, rest))
    (hprevious : ∀ p ∈ previous, p.stop = offset) :
    TailOf previous cs line ∧ ∀ l ∈ lines, l.Legible := by
  induction ts generalizing previous depth offset lineNumber cs line lines with
  | nil => cases h
  | cons t ts ih =>
    rcases bodyLines_cases h with ⟨hkind, rfl, l, ls, rfl, hrest⟩ | ⟨hkind, -, rfl, rfl, -⟩ |
      ⟨depth', line', hnewline, heof, -, rfl, hrest⟩
    · obtain ⟨skipped, r, line', rfl, hskipped, -, -, hscan⟩ :=
        exists_of_scanFrom_cons hscan (by rw [hkind]; simp)
      obtain ⟨htail, hlegible⟩ := ih hscan hrest (by simp)
      rw [hkind]
      refine ⟨tailOf_nil hskipped (by decide), List.forall_mem_cons.2 ⟨htail.legible, hlegible⟩⟩
    · obtain ⟨skipped, r, line', rfl, hskipped, -, -, -⟩ :=
        exists_of_scanFrom_cons hscan (by rw [hkind]; simp)
      rw [hkind]
      exact ⟨tailOf_nil hskipped (by decide), by simp⟩
    · obtain ⟨skipped, r, lineNumber', rfl, hskipped, hread, hstart, hscan⟩ :=
        exists_of_scanFrom_cons hscan heof
      obtain ⟨htail, hlegible⟩ := ih hscan hrest (by simp)
      exact ⟨htail.cons hprevious hskipped hstart hread ⟨hnewline, heof⟩, hlegible⟩

/-- **A body that was read from a text is legible.** -/
theorem Block.legible_ofLines {opening : Span} {ts rest : List Token} {line : Line}
    {lines : List Line} (hts : Scanned ts)
    (h : bodyLines opening none 0 ts = .ok (line, lines, rest)) :
    (Block.ofLines (line :: lines)).Legible := by
  rcases hts with rfl | ⟨offset, lineNumber, cs, hscan⟩
  · cases h
  obtain ⟨htail, hlegible⟩ := legible_of_bodyLines hscan h (by simp)
  refine ⟨fun l hl ↦ ?_, ?_, Block.ofLines_framed _⟩
  · rcases Block.mem_ofLines hl with rfl | hl
    · exact Line.legible_nil
    · exact List.forall_mem_cons.2 ⟨htail.legible, hlegible⟩ l hl
  · rw [Block.flatten_ofLines, List.flatten_cons]
    exact depthAfter_of_bodyLines h

end GoDecorator
