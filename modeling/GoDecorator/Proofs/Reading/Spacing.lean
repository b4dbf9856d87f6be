import GoDecorator.Proofs.Reading.Agreement

/-!
# Blanks and comments do not matter

What is read from a source text depends on the kinds of its tokens. Whatever stands between them,
blanks, carriage returns or comments, **two texts with tokens of the same kinds are read as the same
file or fail with the same error**, up to two things that remember places: the span of an error, and
the flag of a body token that says whether something stands before it. The flags are the same as
well if tokens touch in the same places.

Each of the two runs agrees with the other (`agrees_file`). Both directions are needed: a run that
has used up its budget agrees with every other, and only the second direction says that the other
one has used up its budget, too.
-/

namespace GoDecorator

/-- **Layout does not matter.** Source texts with tokens of the same kinds are both read or both
fail. The files are the same up to the blanks in bodies, and equal if the tokens touch in the same
places; the errors are the same up to their places. -/
theorem layout_irrelevant {source source' : String} {ts us : List Token}
    (hts : Token.scan source = some ts) (hus : Token.scan source' = some us)
    (hkinds : ts.map Token.kind = us.map Token.kind) :
    ∃ x y, parseSource source = .ok x ∧ parseSource source' = .ok y ∧
      SameResult (fun f g ↦ f.SameKinds g ∧
        (Parser.touchings ts = Parser.touchings us → f = g)) x y := by
  refine ⟨_, _, by rw [parseSource, hts], by rw [parseSource, hus], ?_⟩
  have hforth := Parser.agrees_file ts us (Parser.alike_of_touchings hkinds id)
  have hback := Parser.agrees_file us ts (Parser.alike_of_touchings hkinds.symm Eq.symm)
  exact hforth.sameResult hback

/-- A body with other blanks around its tokens, comments and carriage returns. -/
theorem layout_irrelevant_body :
    ∃ f g, parseSource "package p\nfunc f() \x7b\n\treturn a+b\n\x7d" = .ok (.ok f) ∧
      parseSource "package p // q\r\nfunc f()\x7b\n/**/return a + b\r\n\x7d\t" = .ok (.ok g) ∧
      f ≠ g ∧ f.SameKinds g := by
  obtain ⟨ts, hts⟩ : ∃ ts, Token.scan "package p\nfunc f() \x7b\n\treturn a+b\n\x7d" = some ts :=
    Option.isSome_iff_exists.1 (by decide +kernel)
  have hkinds : (Token.scan "package p // q\r\nfunc f()\x7b\n/**/return a + b\r\n\x7d\t").map
      (List.map Token.kind) = some (ts.map Token.kind) := by
    rw [← Option.map_some, ← hts]
    decide +kernel
  obtain ⟨us, hus, hkinds⟩ := Option.map_eq_some_iff.1 hkinds
  obtain ⟨x, y, hx, hy, hsame⟩ := layout_irrelevant hts hus hkinds.symm
  have hf : parseSource "package p\nfunc f() \x7b\n\treturn a+b\n\x7d" =
      .ok (.ok ⟨"p", [.func ⟨none, "f", ⟨[], []⟩, ⟨[[⟨.ident "return", false⟩, ⟨.ident "a", true⟩,
        ⟨.op "+", false⟩, ⟨.ident "b", false⟩]]⟩⟩]⟩) := by
    decide +kernel
  obtain rfl := Except.ok.inj (hx.symm.trans hf)
  cases hsame with
  | ok h =>
    refine ⟨_, _, hf, hy, ?_, h.1⟩
    rintro rfl
    exact absurd (hf.trans hy.symm) (by decide +kernel)

end GoDecorator
