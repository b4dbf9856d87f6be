import GoDecorator.Proofs.Decl.Functions

/-!
# Reading structs

A type with a body in braces is written with a member to a line (`bracedAtoms`), and the parser
takes one member in a round. **If each member is read in its round, then so are all of them**
(`reads_rounds_braced`). Neither says what the members are, so that interfaces can use it too.

## Structs that are read

A struct is written with a field to a line. How far the types are lined up does not matter to the
parser: `writes_struct` says that **a written struct is read as such** for every width of the column
of names. In templates the types are not lined up at all, in printed declarations they are.

A field starts with the line break before it, since the parser skips separators at the start of a
round and not at its end. What stands between the name and the type is left to the parser for types,
unless it is a comma, a point, a separator or a closing brace (`FollowsFieldName`).

## Structs that are not read

The name of a field may be broken, since it may be derived from the name of a type. Such a struct is
not read, nor is one with a type that cannot be read (`read_struct_of_not_writable`). The parser
takes the fields before the first such one and fails there, or right after it: a type with a lone
variadic result is read without its end, and no round starts with the ellipsis that is left
(`failsRounds_of_stuck`).

The induction over the fields is on the text: `FailsOnFields` says that the text of some fields has
a front part with known tokens that the rounds fail on, and a field that is read hands it on.
-/

namespace GoDecorator

open Token GoDecorator.Parser

/-! ### Text -/

/-- The written form of a declaration of a struct, the names of its fields filled up to the given
number of characters. -/
def structText (width : Nat) (name : String) (fields : List Field) : String :=
  "type " ++ name ++ " struct \x7b\n" ++ String.join (fields.map (Field.text width)) ++ "\x7d"

/-- The atoms of a declaration of a type with a body, up to its opening brace. -/
def openAtoms (word : Keyword) (name : String) : List Atom :=
  [.token (.keyword .type), .blank ' ', .token (.ident name), .blank ' ',
    .token (.keyword word), .blank ' ', .token (.opening .brace)]

/-- The tokens up to the opening brace are read back in front of anything. -/
theorem spelled_openAtoms (word : Keyword) {name : String} (hn : IsName name) (next : Option Char) :
    Spelled (openAtoms word name) next :=
  ⟨closed_keyword .type _ (by rw [firstChar_blank]; decide), .inl rfl,
    hn.closed _ (by rw [firstChar_blank]; decide), .inl rfl,
    closed_keyword word _ (by rw [firstChar_blank]; decide), .inl rfl,
    readsBefore_of_isLoose (isLoose_bracket .brace).1 _, trivial⟩

/-- A type starts with a token that a declaration starts with. -/
theorem startsDecl_openAtoms (word : Keyword) (name : String) (as : List Atom) :
    ∃ k ks, kinds (openAtoms word name ++ as) = k :: ks ∧ StartsDecl k := ⟨_, _, rfl, rfl, by simp⟩

/-- The atoms of a field after the line break before it, where `xs` are those of its name. -/
def fieldAtoms (width : Nat) (xs : List Atom) (f : Field) : List Atom :=
  .blank '\t' ::
    (xs ++ (List.replicate (width - f.name.length + 1) (.blank ' ') ++ f.shape.atoms))

/-- The text of a field and of the line break after it. -/
theorem atomsText_fieldAtoms {xs : List Atom} {f : Field} (h : atomsText xs = f.name.toList)
    (width : Nat) : atomsText (fieldAtoms width xs f) ++ ['\n'] = (f.text width).toList := by
  simp [fieldAtoms, h, atomsText_blanks, Field.text, padRight, List.replicate_succ']

/-- The tokens of a field are read back in front of the line break. -/
theorem phrase_fieldAtoms {xs : List Atom} {f : Field} (hx : Phrase xs) (hs : f.shape.Proper)
    (width : Nat) : Spelled (fieldAtoms width xs f) (some '\n') := by
  refine ⟨.inr rfl, (spelled_append ..).2 ⟨hx.spelled _ ?_, spelled_blanks _ (.inl rfl) ?_⟩⟩
  · rw [List.replicate_succ, List.cons_append, firstChar_blank]
    decide
  · exact (Shape.phrase_atoms hs).spelled _ (by decide)

/-- The blanks that line up the types are no tokens. -/
theorem kinds_fieldAtoms (width : Nat) (xs : List Atom) (f : Field) :
    kinds (fieldAtoms width xs f) = kinds xs ++ kinds f.shape.atoms := by
  simp [fieldAtoms, kinds_blanks]

/-! ### Members between braces -/

/-- The atoms of members, each after a line break, and of the closing brace. -/
def bracedAtoms : List (List Atom) → List Atom
  | [] => [.token .newline, .token (.closing .brace)]
  | as :: ass => .token .newline :: (as ++ bracedAtoms ass)

/-- Members between braces start with a line break. -/
theorem firstChar_bracedAtoms (ass : List (List Atom)) (next : Option Char) :
    firstChar (bracedAtoms ass) next = some '\n' := by
  cases ass <;> rfl

/-- Members that are read back in front of a line break are read back one after the other. -/
theorem spelled_bracedAtoms {ass : List (List Atom)} (h : ∀ as ∈ ass, Spelled as (some '\n'))
    (next : Option Char) : Spelled (bracedAtoms ass) next := by
  induction ass with
  | nil =>
    exact ⟨readsBefore_newline _, readsBefore_of_isLoose (isLoose_bracket .brace).2 _, trivial⟩
  | cons as ass ih =>
    obtain ⟨has, hass⟩ := List.forall_mem_cons.1 h
    refine ⟨readsBefore_newline _, (spelled_append ..).2 ⟨?_, ih hass⟩⟩
    rw [firstChar_bracedAtoms]
    exact has

/-- There are more tokens than members. -/
theorem length_bracedAtoms (ass : List (List Atom)) :
    ass.length < (kinds (bracedAtoms ass)).length := by
  induction ass with
  | nil => exact Nat.zero_lt_succ _
  | cons as ass ih =>
    simp only [bracedAtoms, kinds_token, kinds_append, List.length_cons, List.length_append]
    omega

/-- The text of members, each of which ends in a line break. -/
theorem atomsText_bracedAtoms {ass : List (List Atom)} {texts : List String}
    (h : List.Forall₂ (fun as text ↦ atomsText as ++ ['\n'] = String.toList text) ass texts) :
    atomsText (bracedAtoms ass) = '\n' :: (String.join texts ++ "\x7d").toList := by
  induction h with
  | nil => simp [bracedAtoms, Kind.text]
  | cons hhead _ ih => simp [bracedAtoms, ih, ← hhead, Kind.text]

namespace Parser

/-- The members are read one after the other, within any budget that is large enough. -/
theorem run_roundsWithin_braced {α : Type} {round : Parser (Round α)} {ass : List (List Atom)}
    {xs : List α}
    (h : List.Forall₂ (fun as x ↦ Reads round (.newline :: kinds as) (· = .newline) (· = .more x))
      ass xs)
    (hstop : Reads round [.newline, .closing .brace] (fun _ ↦ True) (· = .stop))
    {ts rest : List Token} (hts : ts.map Token.kind = kinds (bracedAtoms ass)) {budget : Nat}
    (hb : ass.length < budget) :
    (roundsWithin round budget).run (ts ++ rest) = .ok (xs, rest) := by
  induction h generalizing ts budget with
  | nil =>
    obtain ⟨budget, rfl⟩ : ∃ b, budget = b + 1 := ⟨budget - 1, by omega⟩
    obtain ⟨_, rfl, hrun⟩ := hstop ts rest hts trivial
    exact run_roundsWithin_stop hrun budget
  | @cons as x ass xs hx _ ih =>
    obtain ⟨budget, rfl⟩ : ∃ b, budget = b + 1 := ⟨budget - 1, by omega⟩
    have hkinds : kinds (bracedAtoms (as :: ass)) =
        (.newline :: kinds as) ++ kinds (bracedAtoms ass) := by simp [bracedAtoms]
    obtain ⟨ts₁, ts₂, rfl, hts₁, hts₂⟩ := List.map_eq_append_iff.1 (hts.trans hkinds)
    have hnext : (first (ts₂ ++ rest)).kind = .newline := by
      cases ass <;> exact first_append hts₂
    obtain ⟨_, rfl, hrun⟩ := hx ts₁ (ts₂ ++ rest) hts₁ hnext
    rw [List.append_assoc, run_roundsWithin_more hrun, ih hts₂ (by
      rw [List.length_cons] at hb
      omega)]
    rfl

/-- **Members that are each read in a round are read together.** -/
theorem reads_rounds_braced {α : Type} {round : Parser (Round α)} {ass : List (List Atom)}
    {xs : List α}
    (h : List.Forall₂ (fun as x ↦ Reads round (.newline :: kinds as) (· = .newline) (· = .more x))
      ass xs)
    (hstop : Reads round [.newline, .closing .brace] (fun _ ↦ True) (· = .stop)) :
    Reads (rounds round) (kinds (bracedAtoms ass)) (fun _ ↦ True) (· = xs) := by
  intro ts rest hts _
  refine ⟨xs, rfl, ?_⟩
  have hlength := length_bracedAtoms ass
  rw [← hts, List.length_map] at hlength
  rw [run_rounds, run_roundsWithin_braced h hstop hts]
  rw [List.length_append]
  omega

/-! ### Fields -/

/-- One round of the parser for the fields of a struct. -/
def fieldRound : Parser (Round (List Field)) := do
  skipSeparators
  if ← accept (.closing .brace) then return .stop
  let span ← here
  if ← atEnd then throw (.unbalancedBlock span)
  let name ← ident
  let names := name :: (← moreNames)
  if (← atSeparator) || (← isNext (.closing .brace)) || (← isNext .dot) then
    throw (.unsupportedType .embeddedField span)
  let s ← shape
  return .more (names.map fun name ↦ ⟨name, s⟩)

theorem structBody_eq : structBody = List.flatten <$> rounds fieldRound := rfl

theorem run_moreNames {ts : List Token} (h : (first ts).kind ≠ .comma) :
    moreNames.run ts = .ok ([], ts) := by
  rw [moreNames, run_rounds, @run_roundsWithin_stop _ _ ts _]
  rw [StateT.run_bind, run_accept_of_ne h]
  rfl

theorem dropWhile_newline_cons {t u : Token} (ht : t.kind = .newline) {ts : List Token}
    (hu : u.kind.isSeparator = false) :
    (t :: u :: ts).dropWhile (fun t ↦ t.kind.isSeparator) = u :: ts :=
  @dropWhile_separators [t] _ (by simp [ht, Kind.isSeparator]) hu

/-- A token after the name of a field that leaves it to the parser for types what comes next. -/
def FollowsFieldName (k : Kind) : Prop :=
  k ≠ .comma ∧ k.isSeparator = false ∧ k ≠ .eof ∧ k ≠ .closing .brace ∧ k ≠ .dot

/-- A written type can follow the name of a field. -/
theorem starts_followsFieldName (s : Shape) : Starts FollowsFieldName (kinds s.atoms) := by
  obtain ⟨k, ks, hk, hstart, -⟩ := exists_kinds_atoms s
  have hsep : k.isSeparator = false := by
    rw [Bool.eq_false_iff]
    intro hsep
    have hends := (endsType_of_isSeparator hsep).1
    rw [hstart] at hends
    cases hends
  exact .of_eq hk ⟨ne_of_startsType hstart rfl, hsep, ne_of_startsType hstart rfl,
    ne_of_startsType hstart rfl, ne_of_startsType hstart rfl⟩

/-- After its name a field goes on with its type. -/
theorem continues_fieldRound {n : String} :
    Continues fieldRound [.newline, .ident n] FollowsFieldName shape fun s ↦ .more [⟨n, s⟩] := by
  rintro ts us hts ⟨hcomma, hsep, heof, hbrace, hdot⟩
  obtain ⟨t, ts, rfl, ht, hts⟩ := List.map_eq_cons_iff.1 hts
  obtain ⟨u, rfl, hu⟩ := List.map_eq_singleton_iff.1 hts
  have hdrop := @dropWhile_newline_cons _ u ht us (by rw [hu]; rfl)
  simp [fieldRound, hdrop, run_accept, hu, atEnd, ident, run_moreNames hcomma, atSeparator, hsep,
    heof, hbrace, hdot]
  cases shape.run us <;> rfl

/-- The last round takes the closing brace. -/
theorem reads_fieldRound_stop :
    Reads fieldRound [.newline, .closing .brace] (fun _ ↦ True) (· = .stop) := by
  intro ts rest hts _
  obtain ⟨t, ts, rfl, ht, hts⟩ := List.map_eq_cons_iff.1 hts
  obtain ⟨u, rfl, hu⟩ := List.map_eq_singleton_iff.1 hts
  have hdrop := @dropWhile_newline_cons _ u ht rest (by rw [hu]; rfl)
  exact ⟨_, rfl, by simp [fieldRound, hdrop, run_accept, hu]⟩

/-- A field cannot start with an ellipsis. -/
theorem run_fieldRound_ellipsis {ts : List Token} (h : (first ts).kind = .ellipsis) :
    ∃ e, fieldRound.run ts = .error e := by
  have hdrop : ts.dropWhile (fun t ↦ t.kind.isSeparator) = ts :=
    @dropWhile_separators [] _ (by simp) (by rw [h]; rfl)
  simp [fieldRound, hdrop, run_accept, h, atEnd, ident]

/-- A declaration of a type with a body, up to the body. -/
theorem run_topLevel_open {α : Type} {p : Parser α} {make : α → TypeExpr} {word : Keyword}
    {ts rest : List Token} {name : String}
    (hexpr : ∀ v w : Token, v.kind = .keyword word → w.kind = .opening .brace →
      typeExpr.run (v :: w :: rest) = p.run rest >>= fun r ↦ .ok (make r.1, r.2))
    (hts : ts.map Token.kind = kinds (openAtoms word name)) :
    topLevel.run (ts ++ rest) =
      p.run rest >>= fun r ↦ .ok ([.type ⟨name, make r.1⟩], r.2) := by
  obtain ⟨t, ts, rfl, ht, hts⟩ := List.map_eq_cons_iff.1 hts
  obtain ⟨u, ts, rfl, hu, hts⟩ := List.map_eq_cons_iff.1 hts
  obtain ⟨v, ts, rfl, hv, hts⟩ := List.map_eq_cons_iff.1 hts
  obtain ⟨w, rfl, hw⟩ := List.map_eq_singleton_iff.1 hts
  show topLevel.run (t :: u :: v :: w :: rest) = _
  rw [run_topLevel_type ht hu (by simp [hv]) (by simp [hv]), hexpr v w hv hw]
  cases p.run rest <;> rfl

/-- A declaration of a struct up to its body. -/
theorem run_topLevel_struct {ts rest : List Token} {name : String}
    (hts : ts.map Token.kind = kinds (openAtoms .struct name)) :
    topLevel.run (ts ++ rest) =
      structBody.run rest >>= fun r ↦ .ok ([.type ⟨name, .struct r.1⟩], r.2) := by
  refine run_topLevel_open (fun v w hv hw ↦ ?_) hts
  simp [typeExpr, hv, run_expect, hw]
  rfl

/-! ### All fields -/

/-- The rounds fail on tokens that start with these kinds, however many of them there may be. -/
def FailsRounds (ks : List Kind) : Prop :=
  ∀ budget (ts rest : List Token), ts.map Token.kind = ks →
    ∃ e, (roundsWithin fieldRound budget).run (ts ++ rest) = .error e

/-- The rounds fail if the parser for types is stuck after the name of a field, since no field
starts with an ellipsis. -/
theorem failsRounds_of_stuck {ks : List Kind} (hstart : Starts FollowsFieldName ks)
    (h : Stuck shape ks) (n : String) : FailsRounds (.newline :: .ident n :: ks) := by
  intro budget ts rest hts
  obtain ⟨front, us, rfl, hfront, hus⟩ :=
    List.map_eq_append_iff.1 (show ts.map Token.kind = [.newline, .ident n] ++ ks from hts)
  have hround := continues_fieldRound front (us ++ rest) hfront (hstart us rest hus)
  rw [List.append_assoc]
  cases budget with
  | zero => exact ⟨_, rfl⟩
  | succ budget =>
    rcases h us rest hus with ⟨e, he⟩ | ⟨s, rest', hrun, hfirst⟩
    · rw [he] at hround
      exact ⟨e, run_roundsWithin_error hround budget⟩
    · rw [hrun] at hround
      have hnext : ∃ e, (roundsWithin fieldRound budget).run rest' = .error e := by
        cases budget with
        | zero => exact ⟨_, rfl⟩
        | succ budget =>
          obtain ⟨e, he⟩ := run_fieldRound_ellipsis hfirst
          exact ⟨e, run_roundsWithin_error he budget⟩
      obtain ⟨e, he⟩ := hnext
      exact ⟨e, by rw [run_roundsWithin_more hround, he]; rfl⟩

/-- A field with a broken name is not read. -/
theorem failsRounds_broken (ks : List Kind) :
    FailsRounds (.newline :: .ident "i" :: .unknown Text.combiningDot :: ks) :=
  failsRounds_of_stuck (.of_eq rfl ⟨by simp, rfl, by simp, by simp, by simp⟩)
    (fun _ _ hts ↦ .inl (run_shape_unknown (first_append hts))) "i"

/-- A field with a type that cannot be read is not read, or the next field is not. -/
theorem failsRounds_shape {s : Shape} (hs : s.Proper) (hr : ¬ s.Readable) (n : String) :
    FailsRounds (.newline :: .ident n :: kinds s.atoms) :=
  failsRounds_of_stuck (starts_followsFieldName s) (stuck_shape hs hr) n

/-- A field that can be read. -/
theorem reads_fieldRound {s : Shape} (hs : s.Proper) (hr : s.Readable) (n : String) :
    Reads fieldRound (.newline :: .ident n :: kinds s.atoms) (· = .newline)
      (· = .more [⟨n, s.reread⟩]) :=
  continues_fieldRound.reads (starts_followsFieldName s)
    ((reads_shape hs hr).mono (fun _ hk ↦ endsType_of_isSeparator (by rw [hk]; rfl)) fun _ ha ↦ ha)

/-- The rounds fail after a field that can be read if they fail on what comes next. -/
theorem FailsRounds.after_field {s : Shape} (hs : s.Proper) (hr : s.Readable) (n : String)
    {ks : List Kind} (h : FailsRounds (.newline :: ks)) :
    FailsRounds (.newline :: .ident n :: kinds s.atoms ++ .newline :: ks) := by
  intro budget ts rest hts
  obtain ⟨ts₁, ts₂, rfl, hts₁, hts₂⟩ := List.map_eq_append_iff.1 hts
  cases budget with
  | zero => exact ⟨_, rfl⟩
  | succ budget =>
    obtain ⟨_, rfl, hround⟩ := reads_fieldRound hs hr n ts₁ (ts₂ ++ rest) hts₁ (first_append hts₂)
    obtain ⟨e, he⟩ := h budget ts₂ rest hts₂
    exact ⟨e, by rw [List.append_assoc, run_roundsWithin_more hround, he]; rfl⟩

end Parser

/-! ### Structs -/

/-- What the text of a field is read as. -/
def Field.reread (f : Field) : Field := ⟨f.name, f.shape.reread⟩

/-- A field that can be read. -/
structure FieldOk (f : Field) : Prop where
  /-- Its name is an identifier. -/
  name : IsName f.name
  /-- The names in its type are identifiers. -/
  proper : f.shape.Proper
  /-- Its type can be read. -/
  readable : f.shape.Readable

/-- The atoms of fields between braces. -/
def fieldsAtoms (width : Nat) (fields : List Field) : List Atom :=
  bracedAtoms (fields.map fun f ↦ fieldAtoms width [.token (.ident f.name)] f)

theorem atomsText_fieldsAtoms (width : Nat) (fields : List Field) :
    atomsText (fieldsAtoms width fields) =
      '\n' :: (String.join (fields.map (Field.text width)) ++ "\x7d").toList := by
  refine atomsText_bracedAtoms (List.forall₂_map_left_iff.2 (List.forall₂_map_right_iff.2 ?_))
  exact List.forall₂_same.2 fun f _ ↦ atomsText_fieldAtoms (by simp [Kind.text]) width

/-- The tokens of fields that can be read are read back. -/
theorem spelled_fieldsAtoms {fields : List Field} (h : ∀ f ∈ fields, FieldOk f) (width : Nat)
    (next : Option Char) : Spelled (fieldsAtoms width fields) next := by
  refine spelled_bracedAtoms (fun as has ↦ ?_) next
  obtain ⟨f, hf, rfl⟩ := List.mem_map.1 has
  exact phrase_fieldAtoms (h f hf).name.phrase (h f hf).proper width

/-- The fields are read one after the other. -/
theorem reads_structBody {fields : List Field} (h : ∀ f ∈ fields, FieldOk f) (width : Nat) :
    Reads structBody (kinds (fieldsAtoms width fields)) (fun _ ↦ True)
      (· = fields.map Field.reread) := by
  have hrounds : Reads (rounds fieldRound) (kinds (fieldsAtoms width fields)) (fun _ ↦ True)
      (· = fields.map fun f ↦ [f.reread]) := by
    refine reads_rounds_braced (List.forall₂_map_left_iff.2 (List.forall₂_map_right_iff.2 ?_))
      reads_fieldRound_stop
    refine List.forall₂_same.2 fun f hf ↦ ?_
    rw [kinds_fieldAtoms]
    exact reads_fieldRound (h f hf).proper (h f hf).readable f.name
  intro ts rest hts _
  obtain ⟨_, rfl, hrun⟩ := hrounds ts rest hts trivial
  refine ⟨_, rfl, ?_⟩
  have hflatten : (fields.map fun f ↦ [f.reread]).flatten = fields.map Field.reread := by
    rw [← List.flatMap_def, List.map_eq_flatMap]
  rw [structBody_eq, StateT.run_map, hrun, map_ok]
  simp [hflatten]

/-- **A written struct is read as such.** -/
theorem writes_struct {name : String} (hn : IsName name) {fields : List Field}
    (h : ∀ f ∈ fields, FieldOk f) (width : Nat) :
    Writes (structText width name fields) (.type ⟨name, .struct (fields.map Field.reread)⟩) := by
  refine ⟨openAtoms .struct name ++ fieldsAtoms width fields, ?_, ?_,
    startsDecl_openAtoms .struct name _, fun offset line rest hrest ↦ ?_⟩
  · simp [openAtoms, atomsText_fieldsAtoms, structText, Kind.text, Keyword.text]
  · exact fun more ↦ Spelled.spelledAt ((spelled_append ..).2
      ⟨spelled_openAtoms .struct hn _, spelled_fieldsAtoms h width _⟩)
  · obtain ⟨line', hplace⟩ :=
      place_append offset line (openAtoms .struct name) (fieldsAtoms width fields)
    obtain ⟨_, rfl, hbody⟩ := reads_structBody h width (place _ line' _) rest (map_kind_place ..)
      trivial
    rw [hplace, List.append_assoc, run_topLevel_struct (map_kind_place ..), hbody]
    rfl

/-- The printed form of a struct with settled types is read as the struct. -/
theorem writes_text_struct {name : String} (hn : IsName name) {fields : List Field}
    (hne : fields ≠ []) (h : ∀ f ∈ fields, IsName f.name ∧ f.shape.IsSettled) :
    Writes (Decl.type ⟨name, .struct fields⟩).text (.type ⟨name, .struct fields⟩) := by
  have hwrites := writes_struct hn
    (fun f hf ↦ ⟨(h f hf).1, (h f hf).2.1.proper, (h f hf).2.2.1⟩) (fieldWidth fields)
  have hreread : fields.map Field.reread = fields := by
    have hself : ∀ f ∈ fields, f.reread = id f := by
      intro f hf
      rw [Field.reread, Shape.reread_of_isSettled (h f hf).2]
      rfl
    rw [List.map_congr_left hself, List.map_id]
  have htext : structText (fieldWidth fields) name fields =
      (Decl.type ⟨name, .struct fields⟩).text := by
    cases fields with
    | nil => exact absurd rfl hne
    | cons f fields =>
      simp [structText, Decl.text, TypeSpec.text, TypeExpr.text, ← String.toList_inj]
  rwa [hreread, htext] at hwrites

/-! ### Structs that are not read -/

/-- The text of the fields starts with atoms on which the rounds fail. The text after them is
`more`. -/
structure FailsOnFields (width : Nat) (fields : List Field) (as : List Atom) (more : List Char) :
    Prop where
  text : '\n' :: (String.join (fields.map (Field.text width))).toList = atomsText as ++ more
  head_more : more.head? = some '\n'
  spelled : Spelled as (some '\n')
  starts : ∃ bs, as = .token .newline :: bs
  fails : FailsRounds (kinds as)

/-- The text of the first field and that of the others. -/
theorem text_field_cons {xs : List Atom} {f : Field} (h : atomsText xs = f.name.toList)
    (width : Nat) (fields : List Field) :
    '\n' :: (String.join ((f :: fields).map (Field.text width))).toList =
      atomsText (.token .newline :: fieldAtoms width xs f) ++
        '\n' :: (String.join (fields.map (Field.text width))).toList := by
  have hfield := atomsText_fieldAtoms h width
  simp [← hfield, Kind.text]

theorem failsOnFields_broken {f : Field} (hname : IsBroken f.name) (hs : f.shape.Proper)
    (width : Nat) (fields : List Field) :
    ∃ as more, FailsOnFields width (f :: fields) as more := by
  obtain ⟨xs, hxs, hatoms⟩ := hname.exists_atoms
  refine ⟨_, _, text_field_cons hxs width fields, rfl,
    ⟨readsBefore_newline _, phrase_fieldAtoms hatoms.phrase hs width⟩, ⟨_, rfl⟩, ?_⟩
  rw [kinds_token, kinds_fieldAtoms]
  exact failsRounds_broken _

theorem failsOnFields_shape {f : Field} (hname : IsName f.name) (hs : f.shape.Proper)
    (hr : ¬ f.shape.Readable) (width : Nat) (fields : List Field) :
    ∃ as more, FailsOnFields width (f :: fields) as more := by
  have hxs : atomsText [.token (.ident f.name)] = f.name.toList := by simp [Kind.text]
  refine ⟨_, _, text_field_cons hxs width fields, rfl,
    ⟨readsBefore_newline _, phrase_fieldAtoms hname.phrase hs width⟩, ⟨_, rfl⟩, ?_⟩
  rw [kinds_token, kinds_fieldAtoms]
  exact failsRounds_shape hs hr f.name

/-- A field that is read leaves it to the others. -/
theorem FailsOnFields.cons {width : Nat} {fields : List Field} {as : List Atom} {more : List Char}
    (h : FailsOnFields width fields as more) {f : Field} (hf : FieldOk f) :
    ∃ bs, FailsOnFields width (f :: fields) bs more := by
  obtain ⟨htext, hmore, hspelled, ⟨bs, rfl⟩, hfails⟩ := h
  have hxs : atomsText [.token (.ident f.name)] = f.name.toList := by simp [Kind.text]
  refine ⟨(.token .newline :: fieldAtoms width [.token (.ident f.name)] f) ++ .token .newline :: bs,
    ?_, hmore, (spelled_append ..).2 ⟨⟨readsBefore_newline _,
      phrase_fieldAtoms hf.name.phrase hf.proper width⟩, hspelled⟩, ⟨_, rfl⟩, ?_⟩
  · rw [text_field_cons hxs, htext, atomsText_append, List.append_assoc]
  · rw [kinds_append, kinds_token, kinds_fieldAtoms]
    exact hfails.after_field hf.proper hf.readable f.name

/-- The rounds fail on fields if not all of them can be read: at the first one that cannot. -/
theorem exists_failsOnFields {fields : List Field}
    (h : ∀ f ∈ fields, IsLabel f.name ∧ f.shape.Proper)
    (hw : ¬ ∀ f ∈ fields, IsName f.name ∧ f.shape.Readable) (width : Nat) :
    ∃ as more, FailsOnFields width fields as more := by
  induction fields with
  | nil => exact absurd (by simp) hw
  | cons f fields ih =>
    obtain ⟨⟨hlabel, hs⟩, hfields⟩ := List.forall_mem_cons.1 h
    by_cases hname : IsName f.name
    · by_cases hr : f.shape.Readable
      · have hw' : ¬ ∀ g ∈ fields, IsName g.name ∧ g.shape.Readable := fun hall ↦
          hw (List.forall_mem_cons.2 ⟨⟨hname, hr⟩, hall⟩)
        obtain ⟨as, more, hfails⟩ := ih hfields hw'
        obtain ⟨bs, hcons⟩ := hfails.cons ⟨hname, hs, hr⟩
        exact ⟨bs, more, hcons⟩
      · exact failsOnFields_shape hname hs hr width fields
    · exact failsOnFields_broken (hlabel.resolve_left hname) hs width fields

/-- **A struct with a broken field name or a type that cannot be read is not read.** -/
theorem read_struct_of_not_writable {name : String} (hn : IsName name) {fields : List Field}
    (h : ∀ f ∈ fields, IsLabel f.name ∧ f.shape.Proper)
    (hw : ¬ ∀ f ∈ fields, IsName f.name ∧ f.shape.Readable) (width : Nat) :
    ∃ e, Decl.read (structText width name fields) = .error (.error
      (.unreadableOutput .declaration (structText width name fields) e)) := by
  obtain ⟨as, more, htext, hmore, hspelled, -, hfails⟩ := exists_failsOnFields h hw width
  refine @read_of_stuck _ (openAtoms .struct name ++ as) (more ++ ['\x7d']) ?_ ?_
    (startsDecl_openAtoms .struct name as) ?_
  · have hjoin : (structText width name fields).toList = atomsText (openAtoms .struct name) ++
        '\n' :: (String.join (fields.map (Field.text width))).toList ++ ['\x7d'] := by
      simp [structText, openAtoms, Kind.text, Keyword.text]
    rw [hjoin, htext, atomsText_append]
    simp
  · have hnext : ((more ++ ['\x7d']) ++ ['\n']).head? = some '\n' := by
      rw [List.head?_append, List.head?_append, hmore]
      rfl
    rw [hnext]
    exact (spelled_append ..).2 ⟨spelled_openAtoms .struct hn _, hspelled⟩
  · rw [kinds_append]
    intro ts rest hts
    obtain ⟨ts₁, ts₂, rfl, hts₁, hts₂⟩ := List.map_eq_append_iff.1 hts
    obtain ⟨e, he⟩ := hfails ((ts₂ ++ rest).length + 1) ts₂ rest hts₂
    refine .inl ⟨e, ?_⟩
    rw [List.append_assoc, run_topLevel_struct hts₁, structBody_eq, StateT.run_map, run_rounds, he]
    rfl

end GoDecorator
