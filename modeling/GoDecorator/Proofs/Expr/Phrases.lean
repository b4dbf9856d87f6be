import GoDecorator.Expr.Basic
import GoDecorator.Proofs.Shape.Naming
import GoDecorator.Proofs.Shape.Written

/-!
# Expressions as phrases

What generated bodies say is put together from names, types and literals: calls, zero values, lists
of results. Each of these is a phrase as long as its parts are. The rules here are about texts, in
the form in which the patterns put them together, and say nothing about tokens any more.

The basic rule is that two phrases make a phrase if the second one starts with a terminator
(`isPhrase_append`): a blank, a comma, a bracket, a line break. What touches without one has a rule
of its own, since the first token could be drawn into the second: a point (`isPhrase_selected`), the
dots of a spread argument (`isPhrase_spread`), and an operator in front of a name
(`isPhrase_unary`).

**A call is a phrase if what is called and the arguments are** (`isPhrase_call`), and **a zero value
is a phrase** whatever its type is (`Shape.isPhrase_zero`). A broken name is a phrase too, so none
of this asks whether derived names are identifiers.
-/

namespace GoDecorator

open Token

variable {s t : String}

/-! ### Putting texts together -/

/-- Nothing at all is a phrase. -/
theorem isPhrase_empty : IsPhrase "" := ⟨[], rfl, phrase_nil⟩

theorem Token.IsLabel.isPhrase {name : String} (h : IsLabel name) : IsPhrase name := by
  obtain ⟨as, htext, has⟩ := h.exists_atoms
  exact ⟨as, htext, has.phrase⟩

theorem Token.IsName.isPhrase {name : String} (h : IsName name) : IsPhrase name :=
  IsLabel.isPhrase (.inl h)

/-- A written type is a phrase. -/
theorem Shape.isPhrase_text {s : Shape} (h : s.Proper) : IsPhrase s.text :=
  ⟨s.atoms, s.atomsText_atoms, phrase_atoms h⟩

/-- Two phrases, where a terminator stands between them. -/
theorem isPhrase_append (hs : IsPhrase s) (ht : IsPhrase t)
    (hfirst : t.toList.head?.all (· ∈ terminators) = true) : IsPhrase (s ++ t) := by
  obtain ⟨as, hastext, has⟩ := hs
  obtain ⟨bs, hbstext, hbs⟩ := ht
  refine ⟨as ++ bs, by simp [hastext, hbstext], has.append hbs fun next hnext ↦ ?_⟩
  rw [firstChar, hbstext]
  cases hhead : t.toList.head? with
  | none => exact hnext
  | some c =>
    rw [hhead] at hfirst
    exact hfirst

/-- A word and a blank in front of a phrase. -/
theorem isPhrase_word {word : String} (hw : IsName word) (ht : IsPhrase t) :
    IsPhrase (word ++ " " ++ t) := by
  obtain ⟨as, htext, has⟩ := ht
  exact ⟨.token (.ident word) :: .blank ' ' :: as, by simp [htext, Kind.text],
    has.cons_blank hw.closed rfl⟩

/-- A tab in front of a phrase. -/
theorem isPhrase_tab (ht : IsPhrase t) : IsPhrase ("\t" ++ t) := by
  obtain ⟨as, htext, has⟩ := ht
  exact ⟨.blank '\t' :: as, by simp [htext],
    ⟨fun next hn ↦ ⟨.inr rfl, has.spelled next hn⟩, has.closed, has.quiet, has.balanced⟩⟩

/-- A line break in front of a phrase. -/
theorem isPhrase_newline (ht : IsPhrase t) : IsPhrase ("\n" ++ t) := by
  obtain ⟨as, htext, has⟩ := ht
  exact ⟨.token .newline :: as, by simp [htext, Kind.text],
    has.cons closed_newline rfl fun _ _ ↦ readsBefore_newline _⟩

/-- A blank after a phrase. -/
theorem isPhrase_append_blank (hs : IsPhrase s) : IsPhrase (s ++ " ") :=
  isPhrase_append hs ⟨[.blank ' '], rfl, phrase_nil.blank⟩ rfl

/-- A symbol between blanks. -/
theorem isPhrase_between {k : Kind} (hk : k ∈ symbols) (hn : k.isNeutral = true) (hs : IsPhrase s)
    (ht : IsPhrase t) : IsPhrase (s ++ " " ++ k.text ++ " " ++ t) := by
  obtain ⟨as, htext, has⟩ := ht
  have hrest : IsPhrase (" " ++ k.text ++ " " ++ t) :=
    ⟨.blank ' ' :: .token k :: .blank ' ' :: as, by simp [htext],
      (has.cons_blank (closed_symbol hk) hn).blank⟩
  have happend := isPhrase_append hs hrest (by simp; decide)
  simpa [String.append_assoc] using happend

/-- A phrase in brackets is a phrase. -/
theorem isPhrase_bracketed (b : Bracket) (hs : IsPhrase s) :
    IsPhrase ((Kind.opening b).text ++ s ++ (Kind.closing b).text) := by
  obtain ⟨as, htext, has⟩ := hs
  exact ⟨_, by simp [htext], has.bracketed b phrase_nil⟩

/-- Brackets right after a phrase, with a phrase inside. -/
theorem isPhrase_applied (b : Bracket) (hs : IsPhrase s) (ht : IsPhrase t) :
    IsPhrase (s ++ (Kind.opening b).text ++ t ++ (Kind.closing b).text) := by
  have happend := isPhrase_append hs (isPhrase_bracketed b ht) (by cases b <;> simp [Kind.text] <;>
    decide)
  simpa [String.append_assoc] using happend

/-- **A list of phrases with commas between them is a phrase.** -/
theorem isPhrase_commaSeparated {ts : List String} (h : ∀ t ∈ ts, IsPhrase t) :
    IsPhrase (commaSeparated ts) := by
  have hitems : ∃ xss : List (List Atom), xss.map atomsText = ts.map String.toList ∧
      ∀ xs ∈ xss, Phrase xs := by
    induction ts with
    | nil => exact ⟨[], rfl, by simp⟩
    | cons t ts ih =>
      obtain ⟨xss, htexts, hphrases⟩ := ih fun u hu ↦ h u (List.mem_cons_of_mem _ hu)
      obtain ⟨xs, htext, hphrase⟩ := h t (List.mem_cons_self ..)
      exact ⟨xs :: xss, by simp [htext, htexts], List.forall_mem_cons.2 ⟨hphrase, hphrases⟩⟩
  obtain ⟨xss, htexts, hphrases⟩ := hitems
  refine ⟨commaAtoms xss, ?_, phrase_commaAtoms hphrases⟩
  rw [atomsText_commaAtoms, htexts, commaSeparated, String.toList_intercalate]

/-- Phrases one after the other, each of which starts with a terminator. -/
theorem isPhrase_join {ts : List String}
    (h : ∀ t ∈ ts, IsPhrase t ∧ t.toList.head?.any (· ∈ terminators) = true) :
    IsPhrase (String.join ts) := by
  induction ts with
  | nil => exact isPhrase_empty
  | cons t ts ih =>
    obtain ⟨ht, hts⟩ := List.forall_mem_cons.1 h
    rw [String.join_cons]
    refine isPhrase_append ht.1 (ih hts) ?_
    -- What comes next is nothing, or starts with the first character of the next text.
    cases ts with
    | nil => rfl
    | cons u us =>
      obtain ⟨c, hhead, hc⟩ := (Option.any_eq_true _ _).1 (hts u (List.mem_cons_self ..)).2
      rw [String.join_cons, String.toList_append, List.head?_append, hhead]
      exact hc

/-- A string literal. -/
theorem isPhrase_quoted (h : isQuotable s.toList = true) : IsPhrase ("\"" ++ s ++ "\"") :=
  ⟨[.token (.str ("\"" ++ s ++ "\""))], by simp [Kind.text], phrase_token (closed_str h) rfl⟩

/-! ### Paths and calls -/

/-- A name and a point in front of a phrase that starts with a letter. -/
theorem isPhrase_selected {q : String} (hq : IsName q) {c : Char} (ht : IsPhrase t)
    (hc : t.toList.head? = some c) (hi : Text.isIdentStart c = true) :
    IsPhrase (q ++ "." ++ t) := by
  obtain ⟨as, htext, has⟩ := ht
  have hdot := has.cons (k := .dot) (closed_symbol (by decide)) rfl fun next _ ↦ by
    rw [firstChar, htext, hc]
    exact readsBefore_of_isIdentStart (by decide) hi
  refine ⟨.token (.ident q) :: .token .dot :: as, by simp [htext, Kind.text],
    hdot.cons hq.closed rfl fun next _ ↦ ?_⟩
  exact hq.readsBefore (not_isIdentPart_firstChar (by decide) _ next)

/-- Names with points between them. -/
theorem isPhrase_path {a b c : String} (ha : IsName a) (hb : IsName b) (hc : IsName c) :
    IsPhrase (a ++ "." ++ b ++ "." ++ c) := by
  obtain ⟨x, hx, hxi⟩ := IsLabel.exists_head (.inl hb)
  obtain ⟨y, hy, hyi⟩ := IsLabel.exists_head (.inl hc)
  have hinner := isPhrase_selected hb hc.isPhrase hy hyi
  have houter := isPhrase_selected ha hinner (c := x) (by simp [List.head?_append, hx]) hxi
  simpa [String.append_assoc] using houter

/-- **A call is a phrase** if what is called and the arguments are. -/
theorem isPhrase_call {path : String} {args : List Expr} (hpath : IsPhrase path)
    (hargs : ∀ a ∈ args, IsPhrase a.text) : IsPhrase (Expr.call (.ident path) args).text := by
  have htexts : ∀ t ∈ Expr.argTexts args, IsPhrase t := by
    rw [Expr.argTexts_eq_map]
    intro t ht
    obtain ⟨a, ha, rfl⟩ := List.mem_map.1 ht
    exact hargs a ha
  exact isPhrase_applied .paren hpath (isPhrase_commaSeparated htexts)

/-- A name that is spread over a variadic parameter. -/
theorem isPhrase_spread {name : String} (h : IsName name) :
    IsPhrase (Expr.spread (.ident name)).text := by
  refine ⟨[.token (.ident name), .token .ellipsis], by simp [Expr.text, Kind.text], ?_⟩
  refine (phrase_nil.cons_loose (k := .ellipsis) (by decide) rfl).cons h.closed rfl
    fun next _ ↦ h.readsBefore (not_isIdentPart_firstChar (by decide) _ next)

/-- A symbol right before a label. -/
theorem isPhrase_unary {k : Kind} (hk : k ∈ symbols) (hn : k.isNeutral = true) {name : String}
    (h : IsLabel name) : IsPhrase (k.text ++ name) := by
  obtain ⟨c, hc, hi⟩ := h.exists_head
  obtain ⟨as, htext, has⟩ := IsLabel.isPhrase h
  refine ⟨.token k :: as, by simp [htext], has.cons (closed_symbol hk) hn fun next _ ↦ ?_⟩
  rw [firstChar, htext, hc]
  exact readsBefore_of_isIdentStart hk hi

/-! ### Zero values -/

/-- The number that stands for a value of a floating-point type. -/
theorem isPhrase_zeroFloat : IsPhrase "0.0" := by
  refine ⟨[.token (.float "0.0")], by simp [Kind.text], phrase_token (fun next hn rest hrest ↦ ?_)
    rfl⟩
  have hdrawn : rest.head?.any drawnIntoNumber = false := by
    have hall : ∀ c ∈ terminators, drawnIntoNumber c = false := by decide
    rw [hrest]
    cases next with
    | none => rfl
    | some c => exact hall c (of_decide_eq_true hn)
  have hlast : number false true ('0' :: rest) = (['0'], rest, true) := by
    rw [number.eq_def]
    simp [number_of_not_drawn hdrawn]
  have hnumber :
      number false false ('0' :: '.' :: '0' :: rest) = (['0', '.', '0'], rest, true) := by
    simp [number, hlast]
  have hhex : "0x".toList.isPrefixOf ('0' :: '.' :: '0' :: rest) = false := by
    simp [List.isPrefixOf]
  refine ⟨'0', '.' :: '0' :: rest, by simp [Kind.text], gap_plain_cons (by decide) (by simp), ?_⟩
  rw [lexeme, if_neg (by decide), if_pos (by simp [startsNumber]), hhex, hnumber]
  simp [Kind.text]

/-- **A zero value is a phrase.** -/
theorem Shape.isPhrase_zero {s : Shape} (h : s.Proper) : IsPhrase s.zero.text := by
  have hcomposite : IsPhrase (Expr.composite s).text := by
    have happlied := isPhrase_applied .brace (isPhrase_text h) isPhrase_empty
    simpa [Expr.text, Kind.text, String.append_assoc] using happlied
  have hwords : ∀ word ∈ ["nil", "false"], IsName word := by decide
  have hnil : IsPhrase Expr.nil.text := (hwords "nil" (by simp)).isPhrase
  have hzero : IsPhrase "0" := by
    obtain ⟨as, htext, has⟩ := @exists_atoms_of_isNameText ['0'] (by decide)
    exact ⟨as, by simp [htext], has.phrase⟩
  unfold zero
  split
  · exact isPhrase_quoted (s := "") rfl
  · exact (hwords "false" (by simp)).isPhrase
  · exact hnil
  · show IsPhrase (if _ then "0.0" else "0")
    split
    · exact isPhrase_zeroFloat
    · exact hzero
  all_goals first | exact hcomposite | exact hnil

end GoDecorator
