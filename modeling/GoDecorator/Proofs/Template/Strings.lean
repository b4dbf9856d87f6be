import GoDecorator.Proofs.Template.Declarations
import GoDecorator.Proofs.Token.Literals

/-!
# String literals of generated functions

Where a body is written by a template, its string literals can be told from the template. A hole
adds none, as long as no quote stands in what is put into it (`Token.isUnquoted`), and so **the
literals of the generated function are those of the template, filled in** (`strings_of_renderDecl`).

That no quote means no literal is not quite a matter of course: it is a statement about tokens that
are cut from a text, and a token of a string starts with a quote because it is read back in front of
something (`isUnquoted_str`). The atoms of a value are not known, so the quotes are looked for in
its text (`strings_eq_nil`).

A literal of the template may start with a hole of its own, for the name of a measurement. Its text
is then that of the value and of what stands after it (`Mark.ownText`). `HasStrings` tests a
template for a given list of literals, beside the test that it is the template of a function.
-/

namespace GoDecorator

open Token

/-! ### String literals -/

namespace Token

/-- The string literals among tokens. -/
def strings (ks : List Kind) : List String :=
  ks.filterMap fun
    | .str text => some text
    | _ => none

@[simp] theorem strings_append (ks ls : List Kind) :
    strings (ks ++ ls) = strings ks ++ strings ls :=
  List.filterMap_append

/-- Line breaks are no string literals. -/
theorem strings_filter (ks : List Kind) : strings (ks.filter (· ≠ .newline)) = strings ks := by
  induction ks with
  | nil => rfl
  | cons k ks ih =>
    by_cases hk : k = .newline
    · subst hk
      exact ih
    · rw [List.filter_cons_of_pos (by simpa using hk)]
      show strings ([k] ++ _) = strings ([k] ++ ks)
      rw [strings_append, strings_append, ih]

/-- Whether no quote that starts a string literal is among the characters. -/
def isUnquoted (cs : List Char) : Bool := cs.all fun c ↦ c != '"' && c != '\x60'

@[simp] theorem isUnquoted_append (cs ds : List Char) :
    isUnquoted (cs ++ ds) = (isUnquoted cs && isUnquoted ds) := List.all_append

/-- A string literal starts with a quote. -/
theorem isUnquoted_str {text : String} {rest : List Char} (h : (Kind.str text).ReadsAt rest) :
    isUnquoted text.toList = false := by
  have hread : literalKind text = .str text := h.literalKind_text rfl
  rw [literalKind] at hread
  split at hread
  next => cases hread
  next c cs htext =>
    split at hread
    next => cases hread
    next hrune =>
      split at hread
      next hquote =>
        have hcases : c = '"' ∨ c = '\x60' ∨ c = '\'' := by simpa [quotes] using hquote
        rw [htext]
        rcases hcases with rfl | rfl | rfl
        · rfl
        · rfl
        · exact absurd rfl hrune
      next => split at hread <;> cases hread

/-- **Without quotes there is no string literal.** -/
theorem strings_eq_nil {as : List Atom} (hclosed : ∀ k ∈ kinds as, k.Closed)
    (hquotes : isUnquoted (atomsText as) = true) : strings (kinds as) = [] := by
  refine List.filterMap_eq_nil_iff.2 fun k hk ↦ ?_
  split
  next text =>
    obtain ⟨a, ha, hkind⟩ := List.mem_filterMap.1 hk
    have hsub : ∀ c ∈ text.toList, c ∈ atomsText as := by
      intro c hc
      refine List.mem_flatMap.2 ⟨a, ha, ?_⟩
      cases a with
      | blank => cases hkind
      | token k =>
        obtain rfl := Option.some.inj hkind
        exact hc
    have hunquoted : isUnquoted text.toList = true :=
      List.all_eq_true.2 fun c hc ↦ List.all_eq_true.1 hquotes c (hsub c hc)
    rw [isUnquoted_str (hclosed _ hk none rfl [] rfl)] at hunquoted
    cases hunquoted
  next => rfl

/-! ### Texts without quotes -/

/-- A list has no quotes if its texts have none. -/
theorem isUnquoted_commaSeparated {ts : List String} (h : ∀ t ∈ ts, isUnquoted t.toList = true) :
    isUnquoted (commaSeparated ts).toList = true := by
  induction ts with
  | nil => decide
  | cons t ts ih =>
    obtain ⟨ht, hts⟩ := List.forall_mem_cons.1 h
    cases ts with
    | nil => simpa [commaSeparated] using ht
    | cons u us =>
      rw [commaSeparated, String.intercalate_cons_cons, ← commaSeparated]
      simp only [String.toList_append, isUnquoted_append, ht, ih hts]
      decide

/-- No quote stands in a name. -/
theorem isUnquoted_of_isNameText {cs : List Char} (h : isNameText cs = true) :
    isUnquoted cs = true := by
  refine List.all_eq_true.2 fun c hc ↦ ?_
  have hquote := ne_of_isNameText h (d := '"') (by decide) c hc
  have hback := ne_of_isNameText h (d := '\x60') (by decide) c hc
  simp [hquote, hback]

theorem IsLabel.isUnquoted {name : String} (h : IsLabel name) :
    Token.isUnquoted name.toList = true := by
  rcases h with h | ⟨rest, htext, hrest⟩
  · exact isUnquoted_of_isNameText h.isNameText
  · rw [htext]
    show Token.isUnquoted (['i', Text.combiningDot] ++ rest) = true
    rw [isUnquoted_append, isUnquoted_of_isNameText hrest]
    decide

end Token

/-- The string literals in the body of a function. -/
def Decl.strings : Decl → List String
  | .func f => Token.strings (f.body.lines.flatten.map BodyToken.kind)
  | _ => []

namespace Template

/-! ### String literals of templates -/

/-- Whether a mark is a string literal. -/
def Mark.isString : Mark → Bool
  | .token (.str _) | .quote _ _ => true
  | _ => false

/-- The text of a mark without the holes. -/
def Mark.ownText (value : String → String) : Mark → String
  | .token k => k.text
  | .quote key tail => "\"" ++ ((key.map value).getD "" ++ tail) ++ "\""
  | _ => ""

/-- **The string literals of marks are those outside the holes**, if no quotes are put into them. -/
theorem strings_marks {value : String → String} {atoms : String → Need → List Atom}
    {ms : List Mark} (h : ∀ m ∈ ms, m.Filled value atoms)
    (hholes : ∀ key need, .hole key need ∈ ms → isUnquoted (value key).toList = true) :
    strings (kinds (ms.flatMap (Mark.atoms value atoms))) =
      (ms.filter Mark.isString).map (Mark.ownText value) := by
  induction ms with
  | nil => rfl
  | cons m ms ih =>
    obtain ⟨hm, hms⟩ := List.forall_mem_cons.1 h
    have ih := ih hms fun key need hmem ↦ hholes key need (List.mem_cons_of_mem _ hmem)
    rw [List.flatMap_cons, kinds_append, strings_append, ih]
    cases m with
    | blank c => rfl
    | token k => cases k <;> rfl
    | quote key tail => rfl
    | hole key need =>
      have hm : HoleAtoms need (value key) (atoms key need) := hm
      have hnone := strings_eq_nil hm.phrase.closed
        (hm.text ▸ hholes key need (List.mem_cons_self ..))
      rw [Mark.atoms, hnone]
      rfl

/-- The template is that of a function, and these are the string literals in its body. -/
def HasStrings (template : String) (keys : List String) (head : List Piece)
    (needs : List (String × Need)) (literals : List Mark) : Prop :=
  IsTemplate template keys fun ss ↦
    isFunc head needs ss && decide ((bodyMarks head needs ss).filter Mark.isString = literals)

end Template

open Template

/-- **The string literals of a generated function are those of its template**, filled in. -/
theorem strings_of_renderDecl {template : String} {keys : List String} {head : List Piece}
    {needs : List (String × Need)} {literals : List Mark}
    (htemplate : HasStrings template keys head needs literals) {bindings : Bindings}
    (hkeys : bindings.map Prod.fst = keys) {receiver : Option Param} {name : String}
    {sig : Signature}
    (hhead : fillPieces bindings.text head = headText receiver name sig ++ " \x7b")
    (hr : ∀ r ∈ receiver, ReceiverOk r) (hn : IsName name) (hs : sig.Drafted) (hw : sig.Writable)
    (hneeds : ∀ p ∈ needs, Suits p.2 (bindings.text p.1))
    (hunquoted : ∀ p ∈ needs, p.2 ≠ .quotable → isUnquoted (bindings.text p.1).toList = true)
    {d : Decl} (h : (renderDecl bindings template).outcome = .ok d) :
    d.strings = literals.map (Mark.ownText bindings.text) := by
  obtain ⟨ss, text, htest, htext, houtcome⟩ := IsTemplate.exists_text htemplate hkeys
  rw [Bool.and_eq_true, decide_eq_true_eq] at htest
  obtain ⟨hfunc, rfl⟩ := htest
  have hfill := fillSigns_of_isFunc hfunc bindings.text
  have hchecks := checks_of_isFunc hfunc
  obtain ⟨atoms, hfilled⟩ := exists_filled_of_checks hchecks hneeds
  have hbody := body_of_filled hchecks hfilled
  rw [← atomsText_marks hfilled, hhead] at hfill
  rw [houtcome, trim_func (htext.trans hfill), read_func hr hn hs hw hbody] at h
  obtain rfl := Except.ok.inj h
  have hholes : ∀ key need, .hole key need ∈ bodyMarks head needs ss →
      isUnquoted (bindings.text key).toList = true := by
    intro key need hmem
    rw [checks, Bool.and_eq_true] at hchecks
    obtain ⟨hlisted, hneed⟩ : (key, need) ∈ needs ∧ need ≠ .quotable :=
      of_decide_eq_true (List.all_eq_true.1 hchecks.2 _ hmem)
    exact hunquoted _ hlisted hneed
  rw [← strings_marks hfilled hholes, Decl.strings, Block.ofAtoms, Block.flatten_ofLines,
    List.flatten_cons, flatten_splitLines, strings_filter]

end GoDecorator
