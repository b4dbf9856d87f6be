import GoDecorator.Proofs.Decl.Structs

/-!
# Reading interfaces

The members of an interface are written one to a line, the embedded interfaces before the methods.
**A written interface is read as such** (`writes_text_interface`), apart from one that embeds `any`:
this is written with braces, and no member starts like that.

A member is either a method or the name of an interface, and both start with an identifier. The
parser tells them apart by the token after it, a parenthesis or not, and asks for the end of the
line after either (`reads_memberRound`). The rounds are those of the parser for structs with another
kind of member, and so is the text between the braces.

An embedded interface has a name, which the parser turns into a shape. The shape is written as the
name again (`kinds_atoms_ofIdent`, `kinds_atoms_ofQualified`).

The parser collects the members in any order and sorts them into the two lists of an interface, so
writing them in a fixed order loses nothing of what it returns (`interfaceOf_members`).
-/

namespace GoDecorator

open Token GoDecorator.Parser

/-! ### Names of types -/

/-- A predeclared type is written as its name. -/
theorem text_of_ofText?_eq_some {n : String} {p : Primitive} (h : Primitive.ofText? n = some p) :
    p.text = n := by
  rw [Primitive.ofText?] at h
  have hp := List.find?_some h
  exact beq_iff_eq.1 hp

/-- What a name stands for is written as the name, unless it is `any`. -/
theorem kinds_atoms_ofIdent {n : String} (h : Shape.ofIdent n ≠ .any) :
    kinds (Shape.ofIdent n).atoms = [.ident n] := by
  unfold Shape.ofIdent at h ⊢
  split
  next hany => simp [hany] at h
  next =>
    split
    next p hp => simp [Shape.atoms, text_of_ofText?_eq_some hp]
    next => simp [Shape.atoms]

/-- So is what a name in a package stands for. -/
theorem kinds_atoms_ofQualified (q n : String) :
    kinds (Shape.ofQualified q n).atoms = [.ident q, .dot, .ident n] := by
  unfold Shape.ofQualified
  split
  next hcontext => simp [Shape.atoms, hcontext.1, hcontext.2]
  next => simp [Shape.atoms]

/-! ### Members -/

namespace Parser

/-- The written form of a member. -/
def Member.text : Member → String
  | .method m => m.name ++ m.signature.text
  | .embedded s => s.text

/-- The atoms of a member. -/
def Member.atoms : Member → List Atom
  | .method m => .token (.ident m.name) :: m.signature.atoms
  | .embedded s => s.atoms

/-- The atoms of a member spell it. -/
theorem Member.atomsText_atoms (m : Member) : atomsText m.atoms = m.text.toList := by
  cases m with
  | method m => simp [atoms, text, Kind.text]
  | embedded s => simp [atoms, text]

/-- A member that is read as itself. -/
def Member.IsSettled : Member → Prop
  | .method m => IsName m.name ∧ (Shape.function m.signature).IsSettled
  | .embedded s => s.IsEmbedded ∧ s ≠ .any

/-- One round of the parser for the members of an interface. -/
def memberRound : Parser (Round Member) := do
  skipSeparators
  if ← accept (.closing .brace) then return .stop
  let span ← here
  if ← atEnd then throw (.unbalancedBlock span)
  let m ← member
  unless (← atSeparator) || (← isNext (.closing .brace)) do
    throw (.unsupportedType .typeConstraints span)
  return .more m

theorem interfaceBody_eq : interfaceBody = interfaceOf <$> rounds memberRound := rfl

/-- A round takes a member that starts with a name. -/
theorem run_memberRound {t u : Token} {ts rest : List Token} {n : String} {m : Member}
    (ht : t.kind = .newline) (hu : u.kind = .ident n) (h : member.run (u :: ts) = .ok (m, rest))
    (hrest : (first rest).kind = .newline) :
    memberRound.run (t :: u :: ts) = .ok (.more m, rest) := by
  have hdrop := @dropWhile_newline_cons _ u ht ts (by rw [hu]; rfl)
  have hsep : (first rest).kind.isSeparator = true := by rw [hrest]; rfl
  simp [memberRound, hdrop, run_accept, hu, atEnd, h, atSeparator, hsep]

/-- The last round takes the closing brace. -/
theorem reads_memberRound_stop :
    Reads memberRound [.newline, .closing .brace] (fun _ ↦ True) (· = .stop) := by
  intro ts rest hts _
  obtain ⟨t, ts, rfl, ht, hts⟩ := List.map_eq_cons_iff.1 hts
  obtain ⟨u, rfl, hu⟩ := List.map_eq_singleton_iff.1 hts
  have hdrop := @dropWhile_newline_cons _ u ht rest (by rw [hu]; rfl)
  exact ⟨_, rfl, by simp [memberRound, hdrop, run_accept, hu]⟩

/-- A member is read up to the end of its line. -/
theorem reads_memberRound {m : Member} (h : m.IsSettled) :
    Reads memberRound (.newline :: kinds m.atoms) (· = .newline) (· = .more m) := by
  intro ts rest hts hrest
  obtain ⟨t, ts, rfl, ht, hts⟩ := List.map_eq_cons_iff.1 hts
  refine ⟨_, rfl, ?_⟩
  cases m with
  | method m =>
    obtain ⟨u, ts, rfl, hu, hts⟩ := List.map_eq_cons_iff.1 hts
    obtain ⟨_, rfl, hsig⟩ := reads_signature h.2.1.proper h.2.2.1 ts rest hts
      (endsType_of_isSeparator (by rw [hrest]; rfl))
    have hparen : (first (ts ++ rest)).kind = .opening .paren := first_append hts
    refine run_memberRound ht hu ?_ hrest
    rw [SignatureOf.reread_of_isSettled h.2] at hsig
    simp [member, ident, hu, hparen, hsig]
  | embedded s =>
    obtain ⟨⟨n, hn, rfl⟩ | ⟨q, n, hq, hn, rfl⟩, hany⟩ := h
    · have hkinds : ts.map Token.kind = [.ident n] := hts.trans (kinds_atoms_ofIdent hany)
      obtain ⟨u, rfl, hu⟩ := List.map_eq_singleton_iff.1 hkinds
      refine run_memberRound ht hu ?_ hrest
      simp [member, ident, hu, run_accept, hrest]
    · have hkinds : ts.map Token.kind = [.ident q, .dot, .ident n] :=
        hts.trans (kinds_atoms_ofQualified q n)
      obtain ⟨u, ts, rfl, hu, hkinds⟩ := List.map_eq_cons_iff.1 hkinds
      obtain ⟨v, ts, rfl, hv, hkinds⟩ := List.map_eq_cons_iff.1 hkinds
      obtain ⟨w, rfl, hw⟩ := List.map_eq_singleton_iff.1 hkinds
      refine run_memberRound ht hu ?_ hrest
      simp [member, ident, hu, run_accept, hv, hw]

/-- A declaration of an interface up to its body. -/
theorem run_topLevel_interface {ts rest : List Token} {name : String}
    (hts : ts.map Token.kind = kinds (openAtoms .interface name)) :
    topLevel.run (ts ++ rest) =
      interfaceBody.run rest >>= fun r ↦ .ok ([.type ⟨name, .interface r.1⟩], r.2) := by
  refine run_topLevel_open (fun v w hv hw ↦ ?_) hts
  simp [typeExpr, hv, run_expect, hw]
  rfl

end Parser

/-! ### Interfaces -/

/-- The members of an interface in the order in which they are written. -/
def InterfaceType.members (body : InterfaceType) : List Member :=
  body.embedded.map .embedded ++ body.methods.map .method

/-- The members of an interface make up the interface. -/
theorem interfaceOf_members (body : InterfaceType) : interfaceOf body.members = body := by
  obtain ⟨methods, embedded⟩ := body
  simp [interfaceOf, InterfaceType.members, List.filterMap_append, List.filterMap_map]

/-- The atoms of the members of an interface between braces. -/
def membersAtoms (ms : List Member) : List Atom :=
  bracedAtoms (ms.map fun m ↦ .blank '\t' :: m.atoms)

/-- The tokens of members that are read as themselves are read back. -/
theorem spelled_membersAtoms {ms : List Member} (h : ∀ m ∈ ms, m.IsSettled) (next : Option Char) :
    Spelled (membersAtoms ms) next := by
  refine spelled_bracedAtoms (fun as has ↦ ?_) next
  obtain ⟨m, hm, rfl⟩ := List.mem_map.1 has
  refine ⟨.inr rfl, ?_⟩
  have hm := h m hm
  cases m with
  | method m =>
    exact ⟨hm.1.readsBefore (not_isIdentPart_firstChar (by decide) _ _),
      (phrase_signature_of_proper hm.2.1.proper).spelled _ (by decide)⟩
  | embedded s =>
    have hproper : s.Proper := by
      obtain ⟨⟨n, hn, rfl⟩ | ⟨q, n, hq, hn, rfl⟩, -⟩ := hm
      · exact (Shape.wellFormed_ofIdent hn).proper
      · exact (Shape.wellFormed_ofQualified hq hn).proper
    exact (Shape.phrase_atoms hproper).spelled _ (by decide)

/-- The members are read one after the other. -/
theorem reads_interfaceBody {body : InterfaceType} (h : ∀ m ∈ body.members, m.IsSettled) :
    Reads interfaceBody (kinds (membersAtoms body.members)) (fun _ ↦ True) (· = body) := by
  have hrounds : Reads (rounds memberRound) (kinds (membersAtoms body.members)) (fun _ ↦ True)
      (· = body.members) := by
    refine reads_rounds_braced ?_ reads_memberRound_stop
    rw [List.forall₂_map_left_iff]
    exact List.forall₂_same.2 fun m hm ↦ reads_memberRound (h m hm)
  intro ts rest hts _
  obtain ⟨_, rfl, hrun⟩ := hrounds ts rest hts trivial
  refine ⟨_, rfl, ?_⟩
  rw [interfaceBody_eq, StateT.run_map, hrun, map_ok, interfaceOf_members]

/-- The text of an interface with at least one member. -/
theorem atomsText_interface {name : String} {body : InterfaceType} (hne : body.members ≠ []) :
    atomsText (openAtoms .interface name ++ membersAtoms body.members) =
      (Decl.type ⟨name, .interface body⟩).text.toList := by
  have hmembers := @atomsText_bracedAtoms (body.members.map fun m ↦ .blank '\t' :: m.atoms)
    (body.members.map fun m ↦ "\t" ++ m.text ++ "\n") (by
      rw [List.forall₂_map_left_iff, List.forall₂_map_right_iff]
      exact List.forall₂_same.2 fun m _ ↦ by simp [m.atomsText_atoms])
  obtain ⟨methods, embedded⟩ := body
  have htext : TypeExpr.text (.interface ⟨methods, embedded⟩) = "interface \x7b\n" ++
      String.join (embedded.map fun s ↦ "\t" ++ s.text ++ "\n") ++
        String.join (methods.map MethodSpec.text) ++ "\x7d" := by
    cases methods with
    | cons m ms => rfl
    | nil =>
      cases embedded with
      | cons s ss => rfl
      | nil => exact absurd rfl hne
  have hmethod : MethodSpec.text = fun m ↦ "\t" ++ (m.name ++ m.signature.text) ++ "\n" :=
    funext fun m ↦ by simp [MethodSpec.text, String.append_assoc]
  rw [atomsText_append, membersAtoms, hmembers]
  simp [openAtoms, Decl.text, TypeSpec.text, htext, hmethod, Kind.text, Keyword.text,
    InterfaceType.members, Member.text, Function.comp_def]

/-- **The printed form of an interface is read as the interface.** -/
theorem writes_text_interface {name : String} (hn : IsName name) {body : InterfaceType}
    (hne : body.members ≠ []) (h : ∀ m ∈ body.members, m.IsSettled) :
    Writes (Decl.type ⟨name, .interface body⟩).text (.type ⟨name, .interface body⟩) := by
  refine ⟨openAtoms .interface name ++ membersAtoms body.members, atomsText_interface hne, ?_,
    startsDecl_openAtoms .interface name _, fun offset line rest _ ↦ ?_⟩
  · exact fun more ↦ Spelled.spelledAt ((spelled_append ..).2
      ⟨spelled_openAtoms .interface hn _, spelled_membersAtoms h _⟩)
  · obtain ⟨line', hplace⟩ := place_append offset line (openAtoms .interface name)
      (membersAtoms body.members)
    obtain ⟨_, rfl, hbody⟩ := reads_interfaceBody h (place _ line' _) rest (map_kind_place ..)
      trivial
    rw [hplace, List.append_assoc, run_topLevel_interface (map_kind_place ..), hbody]
    rfl

end GoDecorator
