import GoDecorator.Proofs.Decl.Progress
import GoDecorator.Proofs.Token.Exactness
import GoDecorator.Reading

/-!
# Where a source is at fault

**The error for a source that cannot be read points at one of its tokens**
(`parse_errors_placed`). Nothing else is reported but for one kind of mistake: a list of parameters
where a type has no name although another entry has both. The parser for lists finds it when it has
the whole list, of which it keeps no places, and reports the place that stands in no source.

That the tokens are complete, so that the parser never reports a missing one, and that their lines
are lines of the source, is what the lexer guarantees (`Token.CutFrom`).
-/

namespace GoDecorator

open Token (lineBreaks CutFrom)

namespace Token

variable {source : List Char} {start : Nat} {ts : List Token}

theorem CutFrom.isComplete (h : CutFrom source start ts) : Parser.IsComplete ts := by
  induction h with
  | stop hle hgap => exact .last rfl
  | token hle hlt hkind hgap htext hline hrest ih => exact .cons hkind ih

/-- The line of a token is a line of the source. -/
theorem CutFrom.line_mem (h : CutFrom source start ts) {t : Token} (ht : t ∈ ts) :
    1 ≤ t.span.line ∧ t.span.line ≤ 1 + lineBreaks source := by
  have hcount : lineBreaks (source.take t.span.start) ≤ lineBreaks source :=
    (List.take_sublist _ _).count_le _
  have hline := (h.text_line t ht).2
  omega

end Token

theorem ParseError.LacksName.span_eq {source : List Token} {e : ParseError}
    (h : e.LacksName source) : e.span = .unknown := by
  obtain ⟨_, _, _, _, _, -, -, -, -, -, rfl⟩ := h
  rfl

/-- A source that is refused has tokens. -/
theorem exists_run_error_of_parseSource {source : String} {e : ParseError}
    (h : parseSource source = .ok (.error e)) :
    ∃ tokens, Token.scan source = some tokens ∧ Parser.file.run tokens = .error e := by
  unfold parseSource at h
  split at h
  next => cases h
  next tokens hscan =>
    refine ⟨tokens, hscan, ?_⟩
    cases hrun : Parser.file.run tokens with
    | error e' =>
      rw [hrun] at h
      exact congrArg Except.error (Except.error.inj (Except.ok.inj h))
    | ok r =>
      rw [hrun] at h
      cases Except.ok.inj h

/-- **Errors point into the source.** The error for a source that cannot be read is one of the tier
of parsing. It has the place of one of the tokens, on a line of the source; or it has no place, and
is raised for a type without a name in a list where another entry has both a name and a type. -/
theorem parse_errors_placed {source : String} {e : ParseError}
    (h : parseSource source = .ok (.error e)) :
    SourceFile.read source = .error (.error (.parse e)) ∧ (Error.parse e).tier = .parse ∧
      e.isOverBudget = false ∧ ∃ tokens, Token.scan source = some tokens ∧
        ((∃ t ∈ tokens, e.span = t.span ∧ 1 ≤ e.span.line ∧
            e.span.line ≤ 1 + lineBreaks source.toList) ∨
          e.span = .unknown ∧ e.LacksName tokens) := by
  obtain ⟨tokens, hscan, hrun⟩ := exists_run_error_of_parseSource h
  have hcut : CutFrom source.toList 0 tokens := @Token.cutFrom_of_scanFrom [] source.toList _ hscan
  have hahead : Parser.Ahead tokens tokens.length tokens :=
    ⟨List.suffix_refl tokens, hcut.isComplete, le_rfl⟩
  have hplaced := (Parser.proceeds_file hahead).fails e hrun
  have hread : SourceFile.read source = .error (.error (.parse e)) := by
    rw [SourceFile.read, h]
    rfl
  refine ⟨hread, rfl, hplaced.isOverBudget_eq, tokens, hscan, ?_⟩
  cases hplaced with
  | token ht hspan _ => exact .inl ⟨_, ht, hspan, hspan ▸ hcut.line_mem ht⟩
  | nowhere hlacks => exact .inr ⟨hlacks.span_eq, hlacks⟩

/-- An array is refused where it starts, and a list with a type that lacks a name at no place. -/
theorem parse_errors_placed_array :
    (∃ e tokens, parseSource "package p\n\nvar x [3]int\n" = .ok (.error e) ∧
      Token.scan "package p\n\nvar x [3]int\n" = some tokens ∧
      ∃ t ∈ tokens, e.span = t.span ∧ e.span.line = 3) ∧
    ∃ e tokens, parseSource "package p\n\ntype F func(a int, []string)\n" = .ok (.error e) ∧
      Token.scan "package p\n\ntype F func(a int, []string)\n" = some tokens ∧
      e.span = .unknown ∧ e.LacksName tokens := by
  constructor
  · have hparse : parseSource "package p\n\nvar x [3]int\n" =
        .ok (.error (.unsupportedType .array ⟨17, 18, 3⟩)) := by decide +kernel
    obtain ⟨-, -, -, tokens, hscan, ⟨t, ht, hspan, -⟩ | ⟨hunknown, -⟩⟩ := parse_errors_placed hparse
    · exact ⟨_, tokens, hparse, hscan, t, ht, hspan, rfl⟩
    · cases hunknown
  · have hparse : parseSource "package p\n\ntype F func(a int, []string)\n" =
        .ok (.error (.expectedIdent (.shape (.slice (.primitive .string))) .unknown)) := by
      decide +kernel
    obtain ⟨-, -, -, tokens, hscan, ⟨_, -, -, hline, -⟩ | hlacks⟩ := parse_errors_placed hparse
    · cases hline
    · exact ⟨_, tokens, hparse, hscan, hlacks⟩

end GoDecorator
