import GoDecorator.Proofs.Token.Spelling
import GoDecorator.Reading

/-!
# What comes of filling in a template

A template is taken apart into signs, that is characters and holes, so that the text that comes of
filling it in is the text of the signs one after the other.

## Signs and pieces

The pieces of a template are found by a scanner that counts characters, for its messages, and puts
the literal text together from its end. `signsFrom` is a plain function from characters to signs
that gives no messages. Where it has an answer the scanner finds pieces with these signs
(`exists_pieces`), so the templates of the patterns are taken apart by a test on signs.

## Bindings

Whether a template can be filled in from bindings depends on the names that are bound and not on
their values; `matchesKeys` tests it, and `instantiate_of_matchesKeys` says that **a template that
passes is filled in without an error**. The values come in only afterwards: the text is `fillSigns`
of the text that each name is bound to.

## Declarations

The templates for declarations start and end with a line break, which is trimmed off before the text
is read (`trim_framed`). `outcome_renderDecl` sums up: the declaration is the one that is read from
the trimmed text.
-/

namespace GoDecorator.Template

/-! ### Signs -/

/-- A character of a template, or a hole for the value of a name. -/
inductive Sign where
  | char (char : Char)
  | hole (key : String)
deriving DecidableEq, Repr

/-- The signs of literal text. -/
def charSigns (cs : List Char) : List Sign := cs.map .char

/-- The signs of a piece. -/
def Piece.signs : Piece → List Sign
  | .literal t => charSigns t.toList
  | .placeholder name => [.hole name]

mutual

/-- The signs of the text of a template, if it is one. -/
def signsFrom : List Char → Option (List Sign)
  | [] => some []
  | '{' :: '{' :: cs => holeFrom [] cs
  | c :: cs => (signsFrom cs).map (.char c :: ·)

/-- The signs of a text inside a placeholder, where `reversed` is the part of its name before the
text, given from its end. -/
def holeFrom (reversed : List Char) : List Char → Option (List Sign)
  | [] => none
  | '}' :: '}' :: cs =>
    if Text.isIdentifier reversed.reverse then
      (signsFrom cs).map (.hole (String.ofList reversed.reverse) :: ·)
    else none
  | '}' :: _ => none
  | c :: cs => holeFrom (c :: reversed) cs

end

/-- The names of the holes, in order. -/
def holes (ss : List Sign) : List String :=
  ss.filterMap fun
    | .char _ => none
    | .hole key => some key

/-- The text of signs with the holes filled in. -/
def fillSigns (value : String → String) (ss : List Sign) : List Char :=
  ss.flatMap fun
    | .char c => [c]
    | .hole key => (value key).toList

@[simp] theorem fillSigns_nil (value : String → String) : fillSigns value [] = [] := rfl

@[simp] theorem fillSigns_append (value : String → String) (ss ts : List Sign) :
    fillSigns value (ss ++ ts) = fillSigns value ss ++ fillSigns value ts := by
  simp [fillSigns]

@[simp] theorem fillSigns_char (value : String → String) (c : Char) (ss : List Sign) :
    fillSigns value (.char c :: ss) = c :: fillSigns value ss := rfl

@[simp] theorem fillSigns_hole (value : String → String) (key : String) (ss : List Sign) :
    fillSigns value (.hole key :: ss) = (value key).toList ++ fillSigns value ss := rfl

@[simp] theorem fillSigns_charSigns (value : String → String) (cs : List Char) :
    fillSigns value (charSigns cs) = cs := by
  induction cs with
  | nil => rfl
  | cons c cs ih => exact congrArg (c :: ·) ih

/-- The text of pieces with the placeholders filled in. -/
def fillPieces (value : String → String) (ps : List Piece) : String :=
  String.join (ps.map fun
    | .literal t => t
    | .placeholder name => value name)

/-- The pieces and their signs are filled in to the same text. -/
theorem toList_fillPieces (value : String → String) (ps : List Piece) :
    (fillPieces value ps).toList = fillSigns value (ps.flatMap Piece.signs) := by
  induction ps with
  | nil => simp [fillPieces]
  | cons p ps ih =>
    rw [List.flatMap_cons, fillSigns_append, ← ih]
    cases p <;> simp [fillPieces, Piece.signs]

@[simp] theorem fillPieces_nil (value : String → String) : fillPieces value [] = "" := by
  simp [← String.toList_inj, toList_fillPieces]

@[simp] theorem fillPieces_literal (value : String → String) (t : String) (ps : List Piece) :
    fillPieces value (.literal t :: ps) = t ++ fillPieces value ps := by
  simp [← String.toList_inj, toList_fillPieces, Piece.signs]

@[simp] theorem fillPieces_placeholder (value : String → String) (name : String)
    (ps : List Piece) :
    fillPieces value (.placeholder name :: ps) = value name ++ fillPieces value ps := by
  simp [← String.toList_inj, toList_fillPieces, Piece.signs]

/-- Pieces are filled in one after the other. -/
theorem fillPieces_append (value : String → String) (ps qs : List Piece) :
    fillPieces value (ps ++ qs) = fillPieces value ps ++ fillPieces value qs := by
  simp [← String.toList_inj, toList_fillPieces]

/-- The signs of a literal that is put in front of pieces, unless it is empty. -/
theorem signs_withLiteral (reversed : List Char) (ps : List Piece) :
    (withLiteral reversed ps).flatMap Piece.signs =
      charSigns reversed.reverse ++ ps.flatMap Piece.signs := by
  unfold withLiteral
  split
  · rename_i h
    rw [List.isEmpty_iff.1 h]
    rfl
  · simp [Piece.signs]

@[simp] theorem holes_append (ss ts : List Sign) : holes (ss ++ ts) = holes ss ++ holes ts :=
  List.filterMap_append

@[simp] theorem holes_charSigns (cs : List Char) : holes (charSigns cs) = [] := by
  simp [holes, charSigns, List.filterMap_map]

/-- The placeholders of pieces are the holes of their signs. -/
theorem holes_signs (ps : List Piece) : holes (ps.flatMap Piece.signs) = placeholders ps := by
  induction ps with
  | nil => rfl
  | cons p ps ih =>
    cases p with
    | literal t =>
      rw [List.flatMap_cons, holes_append, Piece.signs, holes_charSigns, List.nil_append]
      exact ih
    | placeholder name => exact congrArg (name :: ·) ih

/-- The pieces of a text have its signs, outside and inside of a placeholder. -/
theorem exists_pieces_from :
    (∀ (cs : List Char) (ss : List Sign), signsFrom cs = some ss → ∀ offset reversed, ∃ ps,
      piecesFrom offset reversed cs = .ok ps ∧
        ps.flatMap Piece.signs = charSigns reversed.reverse ++ ss) ∧
    ∀ (reversed cs : List Char) (ss : List Sign), holeFrom reversed cs = some ss → ∀ offset, ∃ ps,
      placeholderFrom offset reversed cs = .ok ps ∧ ps.flatMap Piece.signs = ss := by
  apply signsFrom.mutual_induct
  · -- the end of the text
    intro ss hss offset reversed
    obtain rfl := Option.some.inj (signsFrom.eq_1.symm.trans hss)
    exact ⟨_, piecesFrom.eq_1 .., signs_withLiteral reversed []⟩
  · -- two opening braces
    intro cs ih ss hss offset reversed
    rw [signsFrom] at hss
    obtain ⟨ps, hps, hsigns⟩ := ih ss hss offset
    refine ⟨withLiteral reversed ps, ?_, by rw [signs_withLiteral, hsigns]⟩
    rw [piecesFrom, hps]
    rfl
  · -- another character
    intro c cs hne ih ss hss offset reversed
    rw [signsFrom.eq_3 c cs hne] at hss
    obtain ⟨ss, hrest, rfl⟩ := Option.map_eq_some_iff.1 hss
    obtain ⟨ps, hps, hsigns⟩ := ih ss hrest (offset + c.utf8Size) (c :: reversed)
    refine ⟨ps, ?_, by simpa [charSigns] using hsigns⟩
    rw [piecesFrom, hps]
    exact hne
  · -- a placeholder that is not closed
    intro reversed ss hss
    rw [holeFrom] at hss
    cases hss
  · -- two closing braces after a name
    intro reversed cs hname ih ss hss offset
    rw [holeFrom, if_pos hname] at hss
    obtain ⟨ss, hrest, rfl⟩ := Option.map_eq_some_iff.1 hss
    obtain ⟨ps, hps, hsigns⟩ := ih ss hrest (offset + byteLength reversed.reverse + 4) []
    refine ⟨.placeholder (String.ofList reversed.reverse) :: ps, ?_, ?_⟩
    · rw [placeholderFrom]
      simp only [hname, hps]
      rfl
    · rw [List.flatMap_cons, hsigns]
      rfl
  · -- two closing braces after something else
    intro reversed cs hname ss hss
    rw [holeFrom, if_neg hname] at hss
    cases hss
  · -- one closing brace
    intro reversed cs hne ss hss
    rw [holeFrom.eq_3 reversed cs hne] at hss
    cases hss
  · -- another character of the name
    intro reversed c cs hne hne' ih ss hss offset
    rw [holeFrom.eq_4 reversed c cs hne hne'] at hss
    obtain ⟨ps, hps, hsigns⟩ := ih ss hss offset
    refine ⟨ps, ?_, hsigns⟩
    rw [placeholderFrom, hps]
    · exact hne
    · exact hne'

/-- **The pieces of a template** have the signs of its text. -/
theorem exists_pieces {template : String} {cs : List Char} (h : template = String.ofList cs)
    {ss : List Sign} (hss : signsFrom cs = some ss) :
    ∃ ps, pieces template = .ok ps ∧ ps.flatMap Piece.signs = ss ∧
      placeholders ps = holes ss := by
  rw [pieces, h, String.toList_ofList]
  obtain ⟨ps, hps, hsigns⟩ := exists_pieces_from.1 cs ss hss 0 []
  refine ⟨ps, hps, hsigns, ?_⟩
  rw [← holes_signs, hsigns]
  rfl

/-! ### Bindings -/

/-- The text that a name is bound to; nothing if it is not bound. -/
def Bindings.text (bindings : Bindings) (key : String) : String :=
  ((bindings.get? key).map Value.render).getD ""

@[simp] theorem Bindings.text_cons (key k : String) (value : Value) (bindings : Bindings) :
    Bindings.text ((k, value) :: bindings) key =
      if key = k then value.render else Bindings.text bindings key := by
  unfold Bindings.text Bindings.get?
  rw [List.lookup_cons]
  by_cases h : key = k
  · simp [h]
  · simp [h, beq_false_of_ne h]

/-- A name that the first bindings do not bind is looked up in the others. -/
theorem Bindings.text_append {bindings : Bindings} {key : String}
    (h : key ∉ bindings.map Prod.fst) (more : Bindings) :
    Bindings.text (bindings ++ more) key = Bindings.text more key := by
  induction bindings with
  | nil => rfl
  | cons b bindings ih =>
    rw [List.map_cons, List.mem_cons, not_or] at h
    rw [List.cons_append, Bindings.text_cons, if_neg h.1, ih h.2]

/-- A name has a value if it is bound. -/
theorem isSome_get?_iff {bindings : Bindings} {key : String} :
    (bindings.get? key).isSome = true ↔ key ∈ bindings.map Prod.fst := by
  unfold Bindings.get?
  induction bindings with
  | nil => simp
  | cons b bindings ih =>
    rw [List.lookup_cons]
    by_cases h : key = b.1
    · simp [h]
    · rw [beq_false_of_ne h, List.map_cons, List.mem_cons]
      exact ih.trans ⟨.inr, fun hmem ↦ hmem.resolve_left h⟩

/-- With a value for each placeholder, the pieces are filled in. -/
theorem fill_eq {bindings : Bindings} {ps : List Piece}
    (h : ∀ name ∈ placeholders ps, name ∈ bindings.map Prod.fst) :
    fill bindings ps = .ok (fillPieces bindings.text ps) := by
  induction ps with
  | nil => rfl
  | cons p ps ih =>
    cases p with
    | literal t =>
      rw [fill, ih h]
      exact congrArg Except.ok (by simp [fillPieces])
    | placeholder name =>
      have hname := isSome_get?_iff.2 (h name (List.mem_cons_self ..))
      obtain ⟨value, hvalue⟩ := Option.isSome_iff_exists.1 hname
      have htext : bindings.text name = value.render := by
        rw [Bindings.text, hvalue]
        rfl
      rw [fill, hvalue, ih fun n hn ↦ h n (List.mem_cons_of_mem _ hn)]
      exact congrArg Except.ok (by simp [fillPieces, htext])

/-- With a value for each placeholder, only a name without a placeholder can be wrong. -/
theorem instantiate_of_bound {bindings : Bindings} {template : String} {ps : List Piece}
    (hps : pieces template = .ok ps) (h : ∀ name ∈ placeholders ps, name ∈ bindings.map Prod.fst) :
    instantiate bindings template =
      match unused? bindings ps with
      | some key => .error (.unusedKey key)
      | none => .ok (fillPieces bindings.text ps) := by
  rw [instantiate, hps]
  show (fill bindings ps >>= _) = _
  rw [fill_eq h]
  cases unused? bindings ps <;> rfl

/-- Whether the names that are bound are those of the holes. -/
def matchesKeys (keys : List String) (ss : List Sign) : Bool :=
  (holes ss).all (· ∈ keys) && keys.all (· ∈ holes ss)

/-- **A template is filled in if the names that are bound are its own.** The characters of the
template are given as a list, because a test cannot look into a long text. -/
theorem instantiate_of_matchesKeys {bindings : Bindings} {template : String} {cs : List Char}
    {ss : List Sign} (htemplate : template = String.ofList cs) (hss : signsFrom cs = some ss)
    (h : matchesKeys (bindings.map Prod.fst) ss = true) :
    ∃ text, instantiate bindings template = .ok text ∧
      text.toList = fillSigns bindings.text ss := by
  obtain ⟨ps, hps, hsigns, hnames⟩ := exists_pieces htemplate hss
  rw [matchesKeys, ← hnames, Bool.and_eq_true, List.all_eq_true, List.all_eq_true] at h
  have hplaceholders : ∀ name ∈ placeholders ps, name ∈ bindings.map Prod.fst := fun name hn ↦
    of_decide_eq_true (h.1 name hn)
  have hunused : unused? bindings ps = none := by
    refine List.find?_eq_none.2 fun key hkey ↦ ?_
    simpa using h.2 key hkey
  refine ⟨fillPieces bindings.text ps, ?_, by rw [toList_fillPieces, hsigns]⟩
  rw [instantiate_of_bound hps hplaceholders, hunused]

end GoDecorator.Template

namespace GoDecorator

/-! ### Trimming -/

/-- The blanks at the ends of a text are trimmed off. -/
theorem trim_framed {text : String} {before middle after : List Char} {c d : Char}
    (htext : text.toList = before ++ (middle ++ after))
    (hbefore : ∀ b ∈ before, Text.isBlank b = true) (hafter : ∀ b ∈ after, Text.isBlank b = true)
    (hfirst : middle.head? = some c) (hc : Text.isBlank c = false)
    (hlast : middle.getLast? = some d) (hd : Text.isBlank d = false) :
    Text.trim text = String.ofList middle := by
  have hstart : Text.trimStart text.toList = middle ++ after := by
    rw [htext, Text.trimStart]
    refine Token.dropWhile_append_of_head? hbefore ?_
    rw [List.head?_append, hfirst]
    exact hc
  have hend : Text.trimEnd (middle ++ after) = middle := by
    rw [Text.trimEnd, List.reverse_append, Token.dropWhile_append_of_head?, List.reverse_reverse]
    · exact fun b hb ↦ hafter b (List.mem_reverse.1 hb)
    · rw [List.head?_reverse, hlast]
      exact hd
  rw [Text.trim, hstart, hend]

/-- **The declaration of a template is read from the text that comes of filling it in.** -/
theorem outcome_renderDecl {bindings : Template.Bindings} {template text : String}
    (h : Template.instantiate bindings template = .ok text) :
    (renderDecl bindings template).outcome = Decl.read (Text.trim text) := by
  rw [renderDecl, Traced.outcome_bind, Template.render, h]
  rfl

end GoDecorator
