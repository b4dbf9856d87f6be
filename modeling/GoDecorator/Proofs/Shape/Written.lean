import GoDecorator.Proofs.Shape.Parts
import GoDecorator.Proofs.Token.Phrases
import GoDecorator.Shape.Printer

/-!
# The tokens of a written type

The written form of a shape as atoms (`Shape.atoms`): tokens and blanks, in the order in which they
are printed. The printer gives a text, the lexer works on a text, and the parser on tokens; the
atoms are the form between them, on which all three can be compared.

* The atoms follow the printer constructor by constructor, with the lists of parameters and results
  that it nests through, and **their text is the printed text** (`Shape.atomsText_atoms`,
  `ParamOf.atomsText_atoms`, `SignatureOf.atomsText_atoms`).
* **The text of a proper shape is a phrase** (`Shape.phrase_atoms`): each of its tokens is read back
  in front of the next one, its brackets match, and so it can be put anywhere a terminator follows
  it.

A phrase is put together from phrases, and what has to be looked at is the place where two of them
meet. For types this is a star in front of a type, since `*` with an equals sign after it would be
another symbol. A written type starts with a letter or with one of three marks
(`Shape.firstChar_atoms`), and none of them goes on with the star.

Nothing is said here about what the parser makes of these tokens. A receive-only channel after
`chan` is a phrase like any other, and is read as another type.
-/

namespace GoDecorator

open Token

/-! ### Atoms -/

/-- The atoms of a result list from those of the results, with the blank that goes before it. -/
def resultListAtoms (rs : List Param) (atoms : List (List Atom)) : List Atom :=
  if rs.isEmpty then []
  else if standsAlone rs then .blank ' ' :: commaAtoms atoms
  else .blank ' ' :: .token (.opening .paren) :: (commaAtoms atoms ++ [.token (.closing .paren)])

mutual

/-- The atoms of a type. -/
def Shape.atoms : Shape → List Atom
  | .primitive p => [.token (.ident p.text)]
  | .pointer s => .token .star :: s.atoms
  | .named (some q) n => [.token (.ident q), .token .dot, .token (.ident n)]
  | .named none n => [.token (.ident n)]
  | .slice s => .token (.opening .square) :: .token (.closing .square) :: s.atoms
  | .map k v =>
    .token (.keyword .map) :: .token (.opening .square) ::
      (k.atoms ++ .token (.closing .square) :: v.atoms)
  | .function ⟨ps, rs⟩ =>
    .token (.keyword .func) :: .token (.opening .paren) ::
      (commaAtoms (Shape.atomsOfParams ps) ++ .token (.closing .paren) ::
        resultListAtoms rs (Shape.atomsOfParams rs))
  | .context => [.token (.ident "context"), .token .dot, .token (.ident "Context")]
  | .any =>
    [.token (.keyword .interface), .token (.opening .brace), .token (.closing .brace)]
  | .channel .both s => .token (.keyword .chan) :: .blank ' ' :: s.atoms
  | .channel .send s => .token (.keyword .chan) :: .token .arrow :: .blank ' ' :: s.atoms
  | .channel .receive s => .token .arrow :: .token (.keyword .chan) :: .blank ' ' :: s.atoms
  | .emptyStruct => [.token (.keyword .struct), .token (.opening .brace), .token (.closing .brace)]

/-- The atoms of parameters. -/
def Shape.atomsOfParams : List (ParamOf Shape) → List (List Atom)
  | [] => []
  | ⟨name, s, variadic⟩ :: ps =>
    ((name.map fun n ↦ [.token (.ident n), .blank ' ']).getD [] ++
      ((if variadic then [.token .ellipsis] else []) ++ s.atoms)) :: Shape.atomsOfParams ps

end

/-- The atoms of a parameter or a result. -/
def ParamOf.atoms (p : Param) : List Atom :=
  (p.name.map fun n ↦ [.token (.ident n), .blank ' ']).getD [] ++
    ((if p.variadic then [.token .ellipsis] else []) ++ p.shape.atoms)

theorem Shape.atomsOfParams_eq_map (ps : List Param) :
    atomsOfParams ps = ps.map ParamOf.atoms := by
  induction ps with
  | nil => rfl
  | cons p ps ih => simp [atomsOfParams, ParamOf.atoms, ih]

/-- The atoms of a signature, as it follows the name of a function. -/
def SignatureOf.atoms (sig : Signature) : List Atom :=
  .token (.opening .paren) :: (commaAtoms (sig.params.map ParamOf.atoms) ++
    .token (.closing .paren) :: resultListAtoms sig.results (sig.results.map ParamOf.atoms))

@[simp] theorem Shape.atoms_function (sig : Signature) :
    (Shape.function sig).atoms = .token (.keyword .func) :: sig.atoms := by
  obtain ⟨ps, rs⟩ := sig
  simp [Shape.atoms, SignatureOf.atoms, Shape.atomsOfParams_eq_map]

/-! ### Text -/

/-- The text of parameters with commas between them, if that of each parameter is known. -/
theorem atomsText_commaAtoms_map {ps : List Param}
    (h : ∀ p ∈ ps, atomsText p.atoms = p.text.toList) :
    atomsText (commaAtoms (ps.map ParamOf.atoms)) =
      (commaSeparated (ps.map ParamOf.text)).toList := by
  rw [atomsText_commaAtoms, commaSeparated, String.toList_intercalate, List.map_map, List.map_map]
  congr 1
  exact List.map_congr_left h

/-- The text of results, with parentheses or without. -/
theorem atomsText_resultListAtoms {rs : List Param}
    (h : ∀ r ∈ rs, atomsText r.atoms = r.text.toList) :
    atomsText (resultListAtoms rs (rs.map ParamOf.atoms)) = (resultListText rs).toList := by
  unfold resultListAtoms resultListText resultList
  split
  · rfl
  · split
    · simp [atomsText_commaAtoms_map h]
    · simp [atomsText_commaAtoms_map h, Kind.text]

/-- The text of a parameter, if that of its type is known. -/
theorem atomsText_param {p : Param} (h : atomsText p.shape.atoms = p.shape.text.toList) :
    atomsText p.atoms = p.text.toList := by
  obtain ⟨n, s, v⟩ := p
  cases n <;> cases v <;> simp_all [ParamOf.atoms, ParamOf.text, Kind.text]

theorem atomsText_signature {sig : Signature}
    (hps : ∀ p ∈ sig.params, atomsText p.atoms = p.text.toList)
    (hrs : ∀ r ∈ sig.results, atomsText r.atoms = r.text.toList) :
    atomsText sig.atoms = sig.text.toList := by
  simp [SignatureOf.atoms, SignatureOf.text, paramListText, atomsText_commaAtoms_map hps,
    atomsText_resultListAtoms hrs, Kind.text]

/-- **The text of the atoms of a shape is its written form.** -/
@[simp] theorem Shape.atomsText_atoms (s : Shape) : atomsText s.atoms = s.text.toList := by
  induction s using Shape.induct with
  | primitive p => simp [Shape.atoms, Shape.text, Kind.text]
  | pointer s ih => simp [Shape.atoms, Shape.text, Kind.text, ih]
  | named q n => cases q <;> simp [Shape.atoms, Shape.text, Kind.text]
  | slice s ih => simp [Shape.atoms, Shape.text, Kind.text, ih]
  | map k v ihk ihv => simp [Shape.atoms, Shape.text, Kind.text, Keyword.text, ihk, ihv]
  | function ps rs hps hrs =>
    have hsig := @atomsText_signature ⟨ps, rs⟩ (fun p hp ↦ atomsText_param (hps p hp))
      (fun r hr ↦ atomsText_param (hrs r hr))
    simp [Kind.text, Keyword.text, hsig]
  | context => simp [Shape.atoms, Shape.text, Kind.text]
  | any => simp [Shape.atoms, Shape.text, Kind.text, Keyword.text]
  | channel d s ih =>
    cases d <;> simp [Shape.atoms, Shape.text, Kind.text, Keyword.text, ih]
  | emptyStruct => simp [Shape.atoms, Shape.text, Kind.text, Keyword.text]

@[simp] theorem ParamOf.atomsText_atoms (p : Param) : atomsText p.atoms = p.text.toList :=
  atomsText_param p.shape.atomsText_atoms

@[simp] theorem SignatureOf.atomsText_atoms (sig : Signature) :
    atomsText sig.atoms = sig.text.toList :=
  atomsText_signature (fun p _ ↦ p.atomsText_atoms) (fun r _ ↦ r.atomsText_atoms)

/-! ### Written types are phrases -/

/-- The characters other than letters that a written type can start with. -/
def typeMarks : List Char := ['*', '[', '<']

/-- A name starts with a letter. -/
theorem firstChar_ident {n : String} (h : IsName n) (as : List Atom) (next : Option Char) :
    ∃ c, firstChar (.token (.ident n) :: as) next = some c ∧ Text.isIdentStart c = true := by
  obtain ⟨c, cs, hc, hi, -⟩ := h.exists_cons
  refine ⟨c, ?_, hi⟩
  rw [firstChar_token (by rw [Kind.text, hc]; simp), Kind.text, hc]
  rfl

/-- The predeclared types are named by identifiers. -/
theorem Primitive.isName_text (p : Primitive) : IsName p.text := by
  rw [isName_iff]
  cases p <;> decide

theorem isName_context : IsName "context" ∧ IsName "Context" := by
  rw [isName_iff, isName_iff]
  decide

/-- A written type starts with a letter or with one of the marks. -/
theorem Shape.firstChar_atoms {s : Shape} (h : s.Proper) (next : Option Char) :
    ∃ c, firstChar s.atoms next = some c ∧ (Text.isIdentStart c = true ∨ c ∈ typeMarks) := by
  have hident : ∀ {n : String}, IsName n → ∀ as : List Atom,
      ∃ c, firstChar (.token (.ident n) :: as) next = some c ∧
        (Text.isIdentStart c = true ∨ c ∈ typeMarks) := by
    intro n hn as
    obtain ⟨c, hc, hi⟩ := firstChar_ident hn as next
    exact ⟨c, hc, .inl hi⟩
  cases s with
  | primitive p => exact hident p.isName_text []
  | pointer s => exact ⟨'*', rfl, .inr (by decide)⟩
  | named q n =>
    obtain ⟨hq, hn⟩ := everywhere_named.1 h
    cases q with
    | none => exact hident hn []
    | some q => exact hident (hq q rfl) _
  | slice s => exact ⟨'[', rfl, .inr (by decide)⟩
  | map k v => exact ⟨'m', rfl, .inl (by decide)⟩
  | function sig =>
    rw [Shape.atoms_function]
    exact ⟨'f', rfl, .inl (by decide)⟩
  | context => exact hident isName_context.1 _
  | any => exact ⟨'i', rfl, .inl (by decide)⟩
  | channel d s =>
    cases d with
    | both => exact ⟨'c', rfl, .inl (by decide)⟩
    | send => exact ⟨'c', rfl, .inl (by decide)⟩
    | receive => exact ⟨'<', rfl, .inr (by decide)⟩
  | emptyStruct => exact ⟨'s', rfl, .inl (by decide)⟩

/-- A star is read back in front of a written type. -/
theorem readsBefore_star {s : Shape} (h : s.Proper) (next : Option Char) :
    Kind.star.ReadsBefore (firstChar s.atoms next) := by
  obtain ⟨c, hc, hi⟩ := Shape.firstChar_atoms h next
  rw [hc]
  rcases hi with hi | hmark
  · exact readsBefore_of_isIdentStart (by decide) hi
  · have hall : ∀ d ∈ typeMarks, Kind.star.endsBefore (some d) = true := by decide
    exact readsBefore_of_endsBefore (hall c hmark)

/-- A qualified name is a phrase. -/
theorem phrase_qualified {q n : String} (hq : IsName q) (hn : IsName n) :
    Phrase [.token (.ident q), .token .dot, .token (.ident n)] := by
  have hdot := hn.phrase.cons (k := .dot) (closed_symbol (by decide)) rfl fun next _ ↦ by
    obtain ⟨c, hc, hi⟩ := firstChar_ident hn [] next
    rw [hc]
    exact readsBefore_of_isIdentStart (by decide) hi
  exact hdot.cons hq.closed rfl fun next _ ↦
    hq.readsBefore (not_isIdentPart_firstChar (by decide) _ next)

/-- A parameter is a phrase if its type is one. -/
theorem phrase_param {p : Param} (hn : ∀ n ∈ p.name, IsName n) (hs : Phrase p.shape.atoms) :
    Phrase p.atoms := by
  obtain ⟨name, s, v⟩ := p
  have htype : Phrase ((if v then [.token .ellipsis] else []) ++ s.atoms) := by
    cases v with
    | false => exact hs
    | true => exact hs.cons_loose (k := .ellipsis) (by decide) rfl
  cases name with
  | none => exact htype
  | some n => exact htype.cons_blank (hn n rfl).closed rfl

/-- Results are a phrase if each of them is. -/
theorem phrase_resultListAtoms {rs : List Param} (h : ∀ r ∈ rs, Phrase r.atoms) :
    Phrase (resultListAtoms rs (rs.map ParamOf.atoms)) := by
  have hlist : Phrase (commaAtoms (rs.map ParamOf.atoms)) := by
    refine phrase_commaAtoms fun xs hxs ↦ ?_
    obtain ⟨r, hr, rfl⟩ := List.mem_map.1 hxs
    exact h r hr
  unfold resultListAtoms
  split
  · exact phrase_nil
  · split
    · exact hlist.blank
    · exact (hlist.bracketed .paren phrase_nil).blank

/-- So is a signature if its parameters and its results are. -/
theorem phrase_signature {sig : Signature} (hps : ∀ p ∈ sig.params, Phrase p.atoms)
    (hrs : ∀ r ∈ sig.results, Phrase r.atoms) : Phrase sig.atoms := by
  refine Phrase.bracketed .paren (phrase_commaAtoms fun xs hxs ↦ ?_) (phrase_resultListAtoms hrs)
  obtain ⟨p, hp, rfl⟩ := List.mem_map.1 hxs
  exact hps p hp

/-- **The written form of a proper shape is a phrase.** -/
theorem Shape.phrase_atoms {s : Shape} (h : s.Proper) : Phrase s.atoms := by
  induction s using Shape.induct with
  | primitive p => exact p.isName_text.phrase
  | pointer s ih =>
    have hs := (everywhere_pointer.1 h).2
    exact (ih hs).cons (closed_symbol (by decide)) rfl fun next _ ↦ readsBefore_star hs next
  | named q n =>
    obtain ⟨hq, hn⟩ := everywhere_named.1 h
    cases q with
    | none => exact IsName.phrase hn
    | some q => exact phrase_qualified (hq q rfl) hn
  | slice s ih => exact phrase_nil.bracketed .square (ih (everywhere_slice.1 h).2)
  | map k v ihk ihv =>
    obtain ⟨-, hk, hv⟩ := everywhere_map.1 h
    exact ((ihk hk).bracketed .square (ihv hv)).cons (closed_keyword .map) rfl fun _ _ ↦
      readsBefore_keyword .map (not_isIdentPart_firstChar (by decide) _ _)
  | function ps rs ihps ihrs =>
    obtain ⟨⟨-, -, hnames⟩, hps, hrs⟩ := everywhere_function.1 h
    have hsig : Phrase (SignatureOf.atoms ⟨ps, rs⟩) := by
      refine phrase_signature (fun p hp ↦ ?_) fun r hr ↦ ?_
      · exact phrase_param (hnames p (List.mem_append_left _ hp)) (ihps p hp (hps p hp))
      · exact phrase_param (hnames r (List.mem_append_right _ hr)) (ihrs r hr (hrs r hr))
    rw [Shape.atoms_function]
    exact hsig.cons (closed_keyword .func) rfl fun _ _ ↦
      readsBefore_keyword .func (not_isIdentPart_firstChar (by decide) _ _)
  | context => exact phrase_qualified isName_context.1 isName_context.2
  | any =>
    exact (phrase_nil.bracketed .brace phrase_nil).cons (closed_keyword .interface) rfl fun _ _ ↦
      readsBefore_keyword .interface (not_isIdentPart_firstChar (by decide) _ _)
  | channel d s ih =>
    have hs := ih (everywhere_channel.1 h).2
    cases d with
    | both => exact hs.cons_blank (closed_keyword .chan) rfl
    | send =>
      exact (hs.blank.cons_loose (k := .arrow) (by decide) rfl).cons
        (closed_keyword .chan) rfl fun _ _ ↦
          readsBefore_keyword .chan (not_isIdentPart_firstChar (by decide) _ _)
    | receive =>
      exact (hs.cons_blank (closed_keyword .chan) rfl).cons_loose (k := .arrow)
        (by decide) rfl
  | emptyStruct =>
    exact (phrase_nil.bracketed .brace phrase_nil).cons (closed_keyword .struct) rfl fun _ _ ↦
      readsBefore_keyword .struct (not_isIdentPart_firstChar (by decide) _ _)

end GoDecorator
