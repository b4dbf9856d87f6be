import Mathlib.Data.List.Chain
import GoDecorator.Proofs.Token.Atoms

/-!
# The lexer is exact

**Nothing of a source text is lost, and nothing is made up.** The tokens come in the order of the
text, each has the text and the line of its span, and what stands between them are blanks and
comments (`scan_exact`).

## Gaps

`IsGap` is the grammar of what may stand between tokens. It also looks at what follows, because a
comment up to the end of a line ends there, and a comment without an end takes all that is left. A
block comment ends at the first place where it can. The scanner for gaps has a mode for each kind of
comment, and `GapRest` says what it reads in each of them, so that `gapRest_gap` is by induction on
its recursion.

## Cuts

`CutFrom` says of a list of tokens that it cuts a text from some place on; it follows the lexer, so
that one induction carries positions and lines along (`cutFrom_of_scanFrom`), and all that is
claimed is read off from it. Places are counted in characters from the start of the source, and a
line is one more than the number of line breaks before the token.

Between two tokens there is a gap in the sense that `IsGap` holds of the text between them *in front
of the text of the second one*. A statement about the text between them alone would let a comment
run into the next token.
-/

namespace GoDecorator.Token

/-! ### What stands between tokens -/

/-- The end of a block comment stands somewhere in the text. -/
def HasBlockEnd (cs : List Char) : Prop := ['*', '/'] <:+: cs

/-- Blanks and comments, given the text that follows them. -/
inductive IsGap : List Char → List Char → Prop where
  | nil {rest : List Char} : IsGap [] rest
  | blank {c : Char} {g rest : List Char} (hc : c = ' ' ∨ c = '\t' ∨ c = '\r') (hg : IsGap g rest) :
    IsGap (c :: g) rest
  /-- A comment up to the end of the line or of the text. The line break is not part of it. -/
  | line {g rest : List Char} (hg : '\n' ∉ g) (hrest : rest = [] ∨ rest.head? = some '\n') :
    IsGap ('/' :: '/' :: g) rest
  /-- A comment up to the first place where its end stands. -/
  | block {body g rest : List Char} (hbody : ¬ HasBlockEnd body) (hg : IsGap g rest) :
    IsGap ('/' :: '*' :: (body ++ '*' :: '/' :: g)) rest
  /-- A comment without an end, up to the end of the text. -/
  | endless {body : List Char} (hbody : ¬ HasBlockEnd body) : IsGap ('/' :: '*' :: body) []

/-- What the scanner for gaps reads in each of its modes. -/
def GapRest : GapMode → List Char → List Char → Prop
  | .plain, g, rest => IsGap g rest
  | .line, g, rest => '\n' ∉ g ∧ (rest = [] ∨ rest.head? = some '\n')
  | .block, g, rest =>
    (∃ body g', g = body ++ '*' :: '/' :: g' ∧ ¬ HasBlockEnd body ∧ IsGap g' rest) ∨
      ¬ HasBlockEnd g ∧ rest = []

/-- An empty text has no end of a comment. -/
theorem not_hasBlockEnd_nil : ¬ HasBlockEnd [] := by
  simp [HasBlockEnd]

theorem not_hasBlockEnd_cons {c : Char} {cs : List Char} (h : ¬ HasBlockEnd cs)
    (hc : ¬ ['*', '/'] <+: c :: cs) : ¬ HasBlockEnd (c :: cs) :=
  fun hend ↦ (List.infix_cons_iff.1 hend).elim hc h

/-- **A gap consists of blanks and comments.** -/
theorem gapRest_gap (mode : GapMode) (cs : List Char) :
    GapRest mode (gap mode cs).1 (gap mode cs).2 := by
  fun_induction gap mode cs with
  | case1 mode =>
    cases mode with
    | plain => exact .nil
    | line => exact ⟨List.not_mem_nil, .inl rfl⟩
    | block => exact .inr ⟨not_hasBlockEnd_nil, rfl⟩
  | case2 cs g rest hgap ih =>
    rw [hgap] at ih
    exact .line ih.1 ih.2
  | case3 cs g rest hgap ih =>
    rw [hgap] at ih
    rcases ih with ⟨body, g', rfl, hbody, hg'⟩ | ⟨hbody, rfl⟩
    · exact .block hbody hg'
    · exact .endless hbody
  | case4 c cs _ _ hc g rest hgap ih =>
    rw [hgap] at ih
    exact .blank hc ih
  | case5 => exact .nil
  | case6 cs => exact ⟨List.not_mem_nil, .inr rfl⟩
  | case7 c cs hc g rest hgap ih =>
    rw [hgap] at ih
    exact ⟨fun hmem ↦ (List.mem_cons.1 hmem).elim (fun heq ↦ hc heq.symm) ih.1, ih.2⟩
  | case8 cs g rest hgap ih =>
    rw [hgap] at ih
    exact .inl ⟨[], g, rfl, not_hasBlockEnd_nil, ih⟩
  | case9 c cs hnot g rest hgap ih =>
    have happend := gap_append .block cs
    rw [hgap] at ih happend
    -- The comment does not end here, whatever has been read of what follows.
    have hstart {body more : List Char} (hcs : cs = body ++ more) : ¬ ['*', '/'] <+: c :: body := by
      rintro ⟨t, ht⟩
      obtain ⟨rfl, rfl⟩ := List.cons.inj ht
      exact hnot _ rfl hcs
    rcases ih with ⟨body, g', rfl, hbody, hg'⟩ | ⟨hg, rfl⟩
    · refine .inl ⟨c :: body, g', rfl, not_hasBlockEnd_cons hbody ?_, hg'⟩
      exact hstart (happend.symm.trans (List.append_assoc ..))
    · exact .inr ⟨not_hasBlockEnd_cons hg (hstart happend.symm), rfl⟩

/-- What the scanner skips between tokens is a gap. -/
theorem isGap_gap (cs : List Char) : IsGap (gap .plain cs).1 (gap .plain cs).2 :=
  gapRest_gap .plain cs

/-! ### What a lexeme is -/

/-- **A lexeme is a token with its own text**, and it is not the end of the source. -/
theorem text_kind_of_lexeme {c : Char} {cs : List Char} {lx : Lexeme} (h : lexeme c cs = some lx) :
    lx.kind.text.toList = lx.text ∧ lx.kind ≠ .eof := by
  have hsymbols : ∀ k ∈ symbols, k ≠ .eof := by decide
  unfold lexeme at h
  split at h
  · obtain rfl := Option.some.inj h
    refine ⟨?_, ?_⟩
    · show (wordKind _).text.toList = _
      rw [text_wordKind, String.toList_ofList]
      rfl
    · unfold word
      dsimp only
      cases Keyword.ofText? _ <;> simp
  split at h
  · obtain rfl := Option.some.inj h
    dsimp only
    split <;> simp [Kind.text]
  split at h
  · obtain ⟨r, -, rfl⟩ := Option.map_eq_some_iff.1 h
    dsimp only
    split <;> simp [Kind.text]
  split at h
  · rename_i hc
    obtain rfl := Option.some.inj h
    exact ⟨by simp [hc, Kind.text], by simp⟩
  · obtain rfl := Option.some.inj h
    unfold symbol
    split
    · rename_i k hk
      exact ⟨rfl, hsymbols k (List.mem_of_find?_eq_some hk)⟩
    · simp [Kind.text]

/-! ### Cutting a text -/

/-- The tokens cut the source from the given place on. -/
inductive CutFrom (source : List Char) : Nat → List Token → Prop where
  | stop {start : Nat} (hle : start ≤ source.length) (hgap : IsGap (source.drop start) []) :
    CutFrom source start [⟨.eof, ⟨source.length, source.length, 1 + lineBreaks source⟩⟩]
  | token {start : Nat} {t : Token} {ts : List Token} (hle : start ≤ t.span.start)
    (hlt : t.span.start < t.span.stop) (hkind : t.kind ≠ .eof)
    (hgap : IsGap (source.extract start t.span.start) (source.drop t.span.start))
    (htext : t.kind.text.toList = source.extract t.span.start t.span.stop)
    (hline : t.span.line = 1 + lineBreaks (source.take t.span.start))
    (hrest : CutFrom source t.span.stop ts) : CutFrom source start (t :: ts)

theorem extract_append_append {α : Type} (xs ys zs : List α) :
    (xs ++ (ys ++ zs)).extract xs.length (xs.length + ys.length) = ys := by
  simp [List.extract]

/-- Line breaks are counted part by part. -/
theorem lineBreaks_append (xs ys : List Char) :
    lineBreaks (xs ++ ys) = lineBreaks xs + lineBreaks ys := List.count_append

/-- **The lexer cuts the text.** The text before is given for the places and the lines. -/
theorem cutFrom_of_scanFrom {before cs : List Char} {ts : List Token}
    (h : scanFrom before.length (1 + lineBreaks before) cs = some ts) :
    CutFrom (before ++ cs) before.length ts := by
  induction hn : cs.length using Nat.strongRecOn generalizing before cs ts with
  | ind n ih =>
    have hgap := isGap_gap cs
    have happend := gap_append .plain cs
    rw [scanFrom_eq] at h
    generalize gap .plain cs = g at hgap happend h
    obtain ⟨skipped, rest⟩ := g
    cases rest with
    | nil =>
      obtain rfl : skipped = cs := by simpa using happend
      obtain rfl := Option.some.inj h
      have hcut : CutFrom (before ++ skipped) before.length _ :=
        .stop (by simp) (by simpa using hgap)
      simpa [lineBreaks_append, Nat.add_assoc] using hcut
    | cons c cs' =>
      obtain ⟨lx, hlx, h⟩ := Option.bind_eq_some_iff.1 h
      obtain ⟨ts, hts, rfl⟩ := Option.map_eq_some_iff.1 h
      have hlexeme := lexeme_append hlx
      have hpos := List.length_pos_iff.2 (text_ne_nil_of_lexeme hlx)
      obtain ⟨htext, hkind⟩ := text_kind_of_lexeme hlx
      subst happend
      rw [← hlexeme] at hgap hn ⊢
      -- The rest is cut with the gap and the lexeme moved to the text before it.
      have hlength : lx.rest.length < n := by
        rw [← hn]
        simp only [List.length_append]
        omega
      have hrest := @ih lx.rest.length hlength (before ++ (skipped ++ lx.text)) lx.rest ts
        (by simpa [lineBreaks_append, Nat.add_assoc] using hts) rfl
      have hsource : before ++ (skipped ++ (lx.text ++ lx.rest)) =
          (before ++ skipped) ++ (lx.text ++ lx.rest) := (List.append_assoc ..).symm
      refine .token (Nat.le_add_right ..) (Nat.lt_add_of_pos_right hpos) hkind ?_ ?_ ?_ ?_
      · show IsGap (List.extract _ _ (before.length + skipped.length))
          (List.drop (before.length + skipped.length) _)
        rw [extract_append_append, hsource, ← List.length_append, List.drop_left]
        exact hgap
      · show lx.kind.text.toList = List.extract _ (before.length + skipped.length)
          (before.length + skipped.length + lx.text.length)
        rw [htext, hsource, ← List.length_append, extract_append_append]
      · show 1 + lineBreaks before + lineBreaks skipped =
          1 + lineBreaks (List.take (before.length + skipped.length) _)
        rw [hsource, ← List.length_append, List.take_left, lineBreaks_append, Nat.add_assoc]
      · simpa [List.append_assoc, Nat.add_assoc] using hrest

/-! ### What the tokens of a source are -/

section Cut

variable {source : List Char} {start : Nat} {ts : List Token}

/-- The last token is the end of the source, and there is no other. -/
theorem CutFrom.exists_front (h : CutFrom source start ts) :
    ∃ front, ts = front ++ [⟨.eof, ⟨source.length, source.length, 1 + lineBreaks source⟩⟩] ∧
      ∀ t ∈ front, t.kind ≠ .eof ∧ t.span.start < t.span.stop := by
  induction h with
  | stop hle hgap => exact ⟨[], rfl, List.forall_mem_nil _⟩
  | token hle hlt hkind hgap htext hline hrest ih =>
    obtain ⟨front, rfl, hfront⟩ := ih
    exact ⟨_ :: front, rfl, List.forall_mem_cons.2 ⟨⟨hkind, hlt⟩, hfront⟩⟩

/-- No token starts before the place from which the text is cut. -/
theorem CutFrom.le_start (h : CutFrom source start ts) : ∀ t ∈ ts, start ≤ t.span.start := by
  induction h with
  | stop hle hgap => exact List.forall_mem_singleton.2 hle
  | token hle hlt hkind hgap htext hline hrest ih =>
    exact List.forall_mem_cons.2
      ⟨hle, fun t ht ↦ Nat.le_trans (Nat.le_trans hle (Nat.le_of_lt hlt)) (ih t ht)⟩

/-- Each token ends before the next one starts. -/
theorem CutFrom.pairwise (h : CutFrom source start ts) :
    ts.Pairwise fun t u ↦ t.span.stop ≤ u.span.start := by
  induction h with
  | stop hle hgap => exact List.pairwise_singleton _ _
  | token hle hlt hkind hgap htext hline hrest ih => exact .cons hrest.le_start ih

/-- Each token has the text and the line of its span. -/
theorem CutFrom.text_line (h : CutFrom source start ts) : ∀ t ∈ ts,
    t.kind.text.toList = source.extract t.span.start t.span.stop ∧
      t.span.line = 1 + lineBreaks (source.take t.span.start) := by
  induction h with
  | stop hle hgap => exact List.forall_mem_singleton.2 ⟨by simp [Kind.text, List.extract], by simp⟩
  | token hle hlt hkind hgap htext hline hrest ih =>
    exact List.forall_mem_cons.2 ⟨⟨htext, hline⟩, ih⟩

/-- Between the tokens, and before the first one, there are gaps. -/
theorem CutFrom.isChain (h : CutFrom source start ts) {s : Span} (hs : s.stop = start) :
    (s :: ts.map Token.span).IsChain fun s t ↦
      IsGap (source.extract s.stop t.start) (source.drop t.start) := by
  induction h generalizing s with
  | stop hle hgap =>
    refine List.isChain_cons_cons.2 ⟨?_, List.isChain_singleton _⟩
    simpa [hs, List.extract, ← List.length_drop] using hgap
  | token hle hlt hkind hgap htext hline hrest ih =>
    exact List.isChain_cons_cons.2 ⟨by rw [hs]; exact hgap, ih rfl⟩

end Cut

/-- **The lexer is exact.** The tokens of a source end with the end of the source, and with no other
one; no token before it is empty, and each ends before the next one starts. Each has the text and
the line of its span. Before, between and after them there are only blanks and comments. And there
are tokens unless the source ends with a backslash. -/
theorem scan_exact :
    (∀ source ts, scan source = some ts →
      (∃ front, ts = front ++ [⟨.eof, ⟨source.length, source.length,
          1 + lineBreaks source.toList⟩⟩] ∧
        ∀ t ∈ front, t.kind ≠ .eof ∧ t.span.start < t.span.stop) ∧
      (ts.Pairwise fun t u ↦ t.span.stop ≤ u.span.start) ∧
      (∀ t ∈ ts, t.kind.text.toList = source.toList.extract t.span.start t.span.stop ∧
        t.span.line = 1 + lineBreaks (source.toList.take t.span.start)) ∧
      (⟨0, 0, 1⟩ :: ts.map Token.span).IsChain fun s t ↦
        IsGap (source.toList.extract s.stop t.start) (source.toList.drop t.start)) ∧
    ∀ source : String, source.toList.getLast? ≠ some '\\' → ∃ ts, scan source = some ts := by
  refine ⟨fun source ts h ↦ ?_, fun source hlast ↦ exists_scanFrom hlast 0 1⟩
  have hcut : CutFrom source.toList 0 ts := @cutFrom_of_scanFrom [] source.toList ts h
  refine ⟨?_, hcut.pairwise, hcut.text_line, hcut.isChain rfl⟩
  rw [← String.length_toList]
  exact hcut.exists_front

/-- A comment of several lines, and a literal that the line break ends. -/
theorem scan_exact_unterminated :
    ∃ ts, scan "x /*\n*/ \"y\\\" // z\n" = some ts ∧ ts.map Token.kind =
        [.ident "x", .str "\"y\\\" // z", .newline, .eof] ∧
      ∀ t ∈ ts, t.kind.text.toList =
          "x /*\n*/ \"y\\\" // z\n".toList.extract t.span.start t.span.stop ∧
        t.span.line = 1 + lineBreaks ("x /*\n*/ \"y\\\" // z\n".toList.take t.span.start) := by
  have hscan : scan "x /*\n*/ \"y\\\" // z\n" =
      some [⟨.ident "x", ⟨0, 1, 1⟩⟩, ⟨.str "\"y\\\" // z", ⟨8, 17, 2⟩⟩, ⟨.newline, ⟨17, 18, 2⟩⟩,
        ⟨.eof, ⟨18, 18, 3⟩⟩] := by decide +kernel
  exact ⟨_, hscan, rfl, (scan_exact.1 _ _ hscan).2.2.1⟩

end GoDecorator.Token
