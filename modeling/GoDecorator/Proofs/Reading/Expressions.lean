import GoDecorator.Proofs.Decl.Values

/-!
# Expressions that are written and read again

What is read as an expression is well-formed (`wellFormed_of_read_expr`), and the written form of a
well-formed expression is read as the expression unless one of six forms is in it
(`Expr.read_text`). In five of the forms two tokens that touch are read as one, or the tokens are
put together in another way. The sixth is a raw string literal without its closing quote: it goes on
to the end of the source, and each time it is read there is one more line break for it to take.

Zero values have none of these forms, except for the type of a composite literal, which has to be
one that is read as itself (`read_text_zero`).
-/

namespace GoDecorator

open Token GoDecorator.Parser

/-- What is read as an expression comes from the parser for expressions. -/
theorem exists_run_expr_of_read {text : String} {e : Expr} (h : Expr.read text = .ok e) :
    ∃ ts rest, Scanned ts ∧ expr.run ts = .ok (e, rest) := by
  obtain ⟨offset, line, ts, ess, ts', hts, hrun, -⟩ := exists_fromValue_of_read h
  obtain ⟨e', ts₁, hexpr, hrun⟩ := exists_run_of_bind hrun
  obtain ⟨separated, ts₂, -, hrun⟩ := exists_run_of_bind hrun
  cases separated with
  | false => cases hrun
  | true =>
    obtain ⟨ess', ts₃, -, hrun⟩ := exists_run_of_bind hrun
    obtain rfl : e' = e := by
      have hdecls := (Prod.mk.inj (Except.ok.inj hrun)).1
      simpa using List.head_eq_of_cons_eq hdecls
    exact ⟨ts, ts₁, .inr ⟨_, _, _, hts⟩, hexpr⟩

/-- **What is read as an expression is well-formed**, and it is not spread. -/
theorem wellFormed_of_read_expr {text : String} {e : Expr} (h : Expr.read text = .ok e) :
    e.WellFormed ∧ e.isSpread = false := by
  obtain ⟨ts, rest, hts, hrun⟩ := exists_run_expr_of_read h
  obtain ⟨hmade, -⟩ := makes_expr ts hts e rest hrun
  exact ⟨hmade.wellFormed, hmade.plain⟩

/-- The zero value of a type that is read as itself is read as itself. -/
theorem read_text_zero {s : Shape} (hwf : s.WellFormed) (hread : Shape.read s.text = .ok s) :
    Expr.read s.zero.text = .ok s.zero := by
  have hcomposite (hs : s.isComposite = true) (hany : s ≠ .any) :
      Expr.read (Expr.composite s).text = .ok (.composite s) := by
    obtain ⟨hformed, hplain, -⟩ := settled_composite hwf hs
    refine Expr.read_text hformed hplain ⟨⟨?_, ?_, ?_, ?_, ?_⟩, ?_⟩ <;>
      simp [Expr.parts, hread, hany]
  have hshort : ∀ e ∈ [Expr.nil, .ident "false", .literal "0", .literal "0.0", .literal "\"\""],
      Expr.read e.text = .ok e := by decide +kernel
  cases s with
  | primitive p => exact hshort _ (by cases p <;> decide)
  | slice | map | named | emptyStruct => exact hcomposite rfl (by simp)
  | pointer | function | channel | context | any => exact hshort .nil (List.mem_cons_self ..)

/-- **Expressions survive being written and read, but for six forms.** An expression that is read
from a text is read again from its own text, unless two operators in it are read as one symbol,
something that starts with an operator is called, a composite literal is one of the empty interface
or of a type that is not read as itself, a literal in an argument has no closing quote, an operand
that ends in a number with a point at its end is spread, or a raw string literal has no closing
quote. The zero value of a type that is read as itself has none of these forms. -/
theorem expr_round_trip :
    (∀ text e, Expr.read text = .ok e → e.Reprintable → Expr.read e.text = .ok e) ∧
      ∀ text s, Shape.read text = .ok s → Shape.read s.text = .ok s →
        Expr.read s.zero.text = .ok s.zero := by
  refine ⟨fun text e h hr ↦ ?_, fun text s h hread ↦ ?_⟩
  · obtain ⟨hwf, hplain⟩ := wellFormed_of_read_expr h
    exact Expr.read_text hwf hplain hr
  · exact read_text_zero (wellFormed_of_read h) hread

/-- A call of a call under an operator, with a spread argument under another one. -/
theorem expr_round_trip_calls :
    (∃ e, Expr.read "-f (pkg.G, '\\'', *xs ...) ( []T\x7b\x7d )" = .ok e ∧
      e.text = "-f(pkg.G, '\\'', *xs...)([]T\x7b\x7d)" ∧ Expr.read e.text = .ok e) ∧
      Expr.read (Shape.zero (.map (.primitive .string) (.channel .send .any))).text =
        .ok (.composite (.map (.primitive .string) (.channel .send .any))) := by
  have hread : Expr.read "-f (pkg.G, '\\'', *xs ...) ( []T\x7b\x7d )" =
      .ok (.unary .minus (.call (.call (.ident "f")
        [.ident "pkg.G", .literal "'\\''", .spread (.unary .deref (.ident "xs"))])
        [.composite (.slice (.named none "T"))])) := by decide +kernel
  have hslice : Shape.read (Shape.slice (.named none "T")).text =
      .ok (.slice (.named none "T")) := by decide +kernel
  have hrune : isUnclosed "'\\''" = false := by decide
  refine ⟨⟨_, hread, by decide +kernel, expr_round_trip.1 _ _ hread ⟨⟨?_, ?_, ?_, ?_, ?_⟩, ?_⟩⟩,
    expr_round_trip.2 "map[string]chan<- interface\x7b\x7d" _ (by decide +kernel)
      (by decide +kernel)⟩
  · simp [Expr.parts, Expr.partsOfArgs]
  · simp [Expr.parts, Expr.partsOfArgs]
  · simp [Expr.parts, Expr.partsOfArgs, hslice]
  · simp [Expr.parts, Expr.partsOfArgs, or_imp, forall_and, hrune]
  · simp [Expr.parts, Expr.partsOfArgs, Expr.lastLiteral?]
  · simp [Expr.parts, Expr.partsOfArgs, hrune]

/-- **A raw string literal without its closing quote is not read as itself**, though it has none of
the five other forms: the line break after the text becomes part of it. -/
theorem read_raw_unclosed :
    Expr.read "\x60abc" = .ok (.literal "\x60abc\n") ∧ (Expr.literal "\x60abc\n").Separable ∧
      Expr.read (Expr.literal "\x60abc\n").text ≠ .ok (.literal "\x60abc\n") := by
  refine ⟨by decide +kernel, ⟨?_, ?_, ?_, ?_, ?_⟩, by decide +kernel⟩ <;> simp [Expr.parts]

end GoDecorator
