import GoDecorator.Proofs.Decl.Soundness
import GoDecorator.Proofs.Reading.Files
import GoDecorator.Proofs.Shape.Reading

/-!
# Reading types

A type is read by declaring a name for it. The parser for declarations takes interfaces and structs
apart itself and leaves all other types to the parser for types, so the two empty ones are read by a
way of their own (`definitionOf`).

**The text of a shape with proper names is read as what the parser for types makes of it**
(`read_text_of_readable`), and it is not read at all if there is a lone variadic result in it
(`read_text_of_not_readable`).

## Round trips

Since what is read is well-formed (`wellFormed_of_read`), `reads_itself_iff` can say exactly which
of the well-formed shapes survive being written and read. Two forms do not, at any depth: a result
list that is one variadic entry without a name, and a channel in both directions whose elements are
channels that are only received from, which is written without the parentheses that would keep the
arrow with the inner one.

## The first token of a type

The parser for declarations tells a definition by its first token. Apart from the two empty ones, no
written type starts with a keyword that it takes apart itself, and a slice has its two brackets next
to each other (`kinds_atoms_cases`). So a definition goes on as its type (`run_topLevel_shape`).
-/

namespace GoDecorator

open Token GoDecorator.Parser

namespace Parser

/-! ### Declarations of types -/

/-- The declaration of a type after the name, where neither type parameters nor an equals sign
follow. -/
theorem run_topLevel_type {t u : Token} {ts : List Token} {n : String}
    (ht : t.kind = .keyword .type) (hu : u.kind = .ident n)
    (hsquare : (first ts).kind = .opening .square →
      ts[1]?.map Token.kind = some (.closing .square))
    (hassign : (first ts).kind ≠ .assign) :
    topLevel.run (t :: u :: ts) =
      typeExpr.run ts >>= fun r ↦ .ok ([.type ⟨n, r.1⟩], r.2) := by
  have hspec : typeSpec.run (u :: ts) =
      typeExpr.run ts >>= fun r ↦ .ok ((⟨n, r.1⟩ : TypeSpec), r.2) := by
    by_cases hs : (first ts).kind = .opening .square
    · simp [typeSpec, ident, hu, hs, hsquare hs, run_accept]
      rfl
    · simp [typeSpec, ident, hu, hs, run_accept, hassign]
      rfl
  simp [topLevel, typeDecl, ht, run_expect, run_accept, hu, hspec]

/-- The empty interface as the right-hand side of a declaration. -/
theorem run_typeExpr_interface {t u v : Token} {rest : List Token}
    (ht : t.kind = .keyword .interface) (hu : u.kind = .opening .brace)
    (hv : v.kind = .closing .brace) :
    typeExpr.run (t :: u :: v :: rest) = .ok (.interface ⟨[], []⟩, rest) := by
  have hbody : interfaceBody.run (v :: rest) = .ok (⟨[], []⟩, rest) := by
    rw [interfaceBody, StateT.run_map, run_rounds, @run_roundsWithin_stop _ _ rest _]
    · rfl
    · simp [run_accept, hv, Kind.isSeparator]
  simp [typeExpr, ht, run_expect, hu, hbody]

/-- The empty struct as the right-hand side of a declaration. -/
theorem run_typeExpr_struct {t u v : Token} {rest : List Token}
    (ht : t.kind = .keyword .struct) (hu : u.kind = .opening .brace)
    (hv : v.kind = .closing .brace) :
    typeExpr.run (t :: u :: v :: rest) = .ok (.struct [], rest) := by
  have hbody : structBody.run (v :: rest) = .ok ([], rest) := by
    rw [structBody, StateT.run_map, run_rounds, @run_roundsWithin_stop _ _ rest _]
    · rfl
    · simp [run_accept, hv, Kind.isSeparator]
  simp [typeExpr, ht, run_expect, hu, hbody]

/-- Any other type as the right-hand side of a declaration. -/
theorem run_typeExpr_shape {ts : List Token} (hi : (first ts).kind ≠ .keyword .interface)
    (hs : (first ts).kind ≠ .keyword .struct) :
    typeExpr.run ts = shape.run ts >>= fun r ↦ .ok (.shape r.1, r.2) := by
  simp only [typeExpr, StateT.run_bind, run_kind, ok_bind]
  rfl

/-- What the text of a shape is read as on the right-hand side of a declaration. -/
def definitionOf : Shape → TypeExpr
  | .any => .interface ⟨[], []⟩
  | .emptyStruct => .struct []
  | s => .shape s.reread

theorem definitionOf_eq {s : Shape} (ha : s ≠ .any) (he : s ≠ .emptyStruct) :
    definitionOf s = .shape s.reread := by
  unfold definitionOf
  split
  · exact absurd rfl ha
  · exact absurd rfl he
  · rfl

/-- The first tokens of a written type, as the parser for declarations looks at them. -/
theorem kinds_atoms_cases {s : Shape} (ha : s ≠ .any) (he : s ≠ .emptyStruct) :
    ∃ k ks, kinds s.atoms = k :: ks ∧ k.startsType = true ∧ k ≠ .keyword .interface ∧
      k ≠ .keyword .struct ∧ (k = .opening .square → ks.head? = some (.closing .square)) := by
  cases s with
  | any => exact absurd rfl ha
  | emptyStruct => exact absurd rfl he
  | named q n => cases q <;> exact ⟨_, _, rfl, rfl, by simp, by simp, by simp⟩
  | function sig =>
    rw [Shape.atoms_function]
    exact ⟨_, _, rfl, rfl, by simp, by simp, by simp⟩
  | channel d s => cases d <;> exact ⟨_, _, rfl, rfl, by simp, by simp, by simp⟩
  | slice s => exact ⟨_, _, rfl, rfl, by simp, by simp, fun _ ↦ rfl⟩
  | _ => exact ⟨_, _, rfl, rfl, by simp, by simp, by simp⟩

/-- The declaration of a name for a written type that is neither of the two empty ones. -/
theorem run_topLevel_shape {s : Shape} (ha : s ≠ .any) (he : s ≠ .emptyStruct) {t u : Token}
    {ts rest : List Token} {n : String} (ht : t.kind = .keyword .type) (hu : u.kind = .ident n)
    (hts : ts.map Token.kind = kinds s.atoms) :
    topLevel.run (t :: u :: (ts ++ rest)) =
      shape.run (ts ++ rest) >>= fun r ↦ .ok ([.type ⟨n, .shape r.1⟩], r.2) := by
  obtain ⟨k, ks, hk, hstart, hi, hs, hsquare⟩ := kinds_atoms_cases ha he
  have hfirst : (first (ts ++ rest)).kind = k := first_append (hts.trans hk)
  rw [run_topLevel_type ht hu, run_typeExpr_shape (hfirst ▸ hi) (hfirst ▸ hs)]
  · cases shape.run (ts ++ rest) <;> rfl
  · intro hopen
    obtain ⟨v, ts, rfl, -, hts⟩ := List.map_eq_cons_iff.1 (hts.trans hk)
    have hclose := hsquare (hfirst ▸ hopen)
    rw [← hts, List.head?_map] at hclose
    obtain ⟨w, hw, hwk⟩ := Option.map_eq_some_iff.1 hclose
    obtain ⟨ts', rfl⟩ := List.head?_eq_some_iff.1 hw
    exact congrArg some hwk
  · rw [hfirst]
    exact ne_of_startsType hstart rfl

theorem reads_topLevel_shape {s : Shape} (hs : s.Proper) (hr : s.Readable) (n : String) :
    Reads topLevel (.keyword .type :: .ident n :: kinds s.atoms) EndsType
      (· = [.type ⟨n, definitionOf s⟩]) := by
  intro ts rest hts hrest
  obtain ⟨t, ts, rfl, ht, hts⟩ := List.map_eq_cons_iff.1 hts
  obtain ⟨u, ts, rfl, hu, hts⟩ := List.map_eq_cons_iff.1 hts
  refine ⟨_, rfl, ?_⟩
  by_cases ha : s = .any
  · subst ha
    obtain ⟨a, ts, rfl, hka, hts⟩ := List.map_eq_cons_iff.1 hts
    obtain ⟨b, ts, rfl, hkb, hts⟩ := List.map_eq_cons_iff.1 hts
    obtain ⟨c, rfl, hkc⟩ := List.map_eq_singleton_iff.1 hts
    rw [List.cons_append, List.cons_append, run_topLevel_type ht hu (by simp [hka]) (by simp [hka])]
    exact congrArg (· >>= _) (run_typeExpr_interface hka hkb hkc)
  by_cases he : s = .emptyStruct
  · subst he
    obtain ⟨a, ts, rfl, hka, hts⟩ := List.map_eq_cons_iff.1 hts
    obtain ⟨b, ts, rfl, hkb, hts⟩ := List.map_eq_cons_iff.1 hts
    obtain ⟨c, rfl, hkc⟩ := List.map_eq_singleton_iff.1 hts
    rw [List.cons_append, List.cons_append, run_topLevel_type ht hu (by simp [hka]) (by simp [hka])]
    exact congrArg (· >>= _) (run_typeExpr_struct hka hkb hkc)
  · obtain ⟨_, rfl, hrun⟩ := reads_shape hs hr ts rest hts hrest
    rw [List.cons_append, List.cons_append, run_topLevel_shape ha he ht hu hts, hrun,
      definitionOf_eq ha he]
    rfl

/-- A type that cannot be read leaves the parser for declarations stuck. -/
theorem stuck_topLevel_shape {s : Shape} (hs : s.Proper) (hr : ¬ s.Readable) (n : String) :
    Stuck topLevel (.keyword .type :: .ident n :: kinds s.atoms) := by
  have ha : s ≠ .any := by
    rintro rfl
    exact hr (Shape.everywhere_any.2 rfl)
  have he : s ≠ .emptyStruct := by
    rintro rfl
    exact hr (Shape.everywhere_emptyStruct.2 rfl)
  intro ts rest hts
  obtain ⟨t, ts, rfl, ht, hts⟩ := List.map_eq_cons_iff.1 hts
  obtain ⟨u, ts, rfl, hu, hts⟩ := List.map_eq_cons_iff.1 hts
  rw [List.cons_append, List.cons_append, run_topLevel_shape ha he ht hu hts]
  exact (stuck_shape hs hr).run_map hts rest fun s ↦ [Decl.type ⟨n, .shape s⟩]

end Parser

/-! ### Types on their own -/

/-- A separator can follow a type. -/
theorem endsType_of_isSeparator {k : Kind} (h : k.isSeparator = true) : EndsType k := by
  cases k with
  | newline => exact ⟨rfl, by simp⟩
  | semicolon => exact ⟨rfl, by simp⟩
  | _ => cases h

/-- The atoms of a declaration of a name for a type. -/
def typeAtoms (n : String) (s : Shape) : List Atom :=
  .token (.keyword .type) :: .blank ' ' :: .token (.ident n) :: .blank ' ' :: s.atoms

theorem phrase_typeAtoms {n : String} (hn : IsName n) {s : Shape} (hs : s.Proper) :
    Phrase (typeAtoms n s) :=
  ((Shape.phrase_atoms hs).cons_blank hn.closed rfl).cons_blank (closed_keyword .type) rfl

theorem atomsText_typeAtoms (n : String) (s : Shape) :
    atomsText (typeAtoms n s) = ("type " ++ n ++ " " ++ s.text).toList := by
  simp [typeAtoms, Kind.text, Keyword.text]

theorem startsDecl_typeAtoms (n : String) (s : Shape) :
    ∃ k ks, kinds (typeAtoms n s) = k :: ks ∧ StartsDecl k := ⟨_, _, rfl, rfl, by simp⟩

/-- A declaration of a name for a written type is read as such. -/
theorem writes_type {n : String} (hn : IsName n) {s : Shape} (hs : s.Proper) (hr : s.Readable) :
    Writes ("type " ++ n ++ " " ++ s.text) (.type ⟨n, definitionOf s⟩) := by
  refine ⟨typeAtoms n s, atomsText_typeAtoms n s, (phrase_typeAtoms hn hs).spelledAt (by decide),
    startsDecl_typeAtoms n s, fun offset line rest hrest ↦ ?_⟩
  obtain ⟨_, rfl, hrun⟩ := reads_topLevel_shape hs hr n (place offset line (typeAtoms n s)) rest
    (map_kind_place ..) (endsType_of_isSeparator hrest)
  exact hrun

/-- The name that types are declared with to read them. -/
theorem isName_abc : IsName "abc" := by
  rw [isName_iff]
  decide

theorem shapeOf_definitionOf (text n : String) (s : Shape) :
    Decl.shapeOf text (.type ⟨n, definitionOf s⟩) = .ok s.reread := by
  unfold definitionOf
  split <;> rfl

/-- **The text of a shape is read as what the parser for types makes of it.** -/
theorem read_text_of_readable {s : Shape} (hs : s.Proper) (hr : s.Readable) :
    Shape.read s.text = .ok s.reread := by
  have hwrites := parseDecl_of_writes (writes_type isName_abc hs hr)
  have hread : parseDecl ("type abc " ++ s.text) = .ok (.ok (.type ⟨"abc", definitionOf s⟩)) :=
    hwrites
  rw [Shape.read, hread]
  show orUnreadable .type s.text (Decl.shapeOf s.text (.type ⟨"abc", definitionOf s⟩)) = _
  rw [shapeOf_definitionOf]
  rfl

/-- **The text of a shape with a lone variadic result in it is not read.** -/
theorem read_text_of_not_readable {s : Shape} (hs : s.Proper) (hr : ¬ s.Readable) :
    ∃ e, Shape.read s.text = .error (.error (.unreadableOutput .type s.text e)) := by
  have htext : ("type abc " ++ s.text).toList = atomsText (typeAtoms "abc" s) ++ [] := by
    rw [atomsText_typeAtoms, List.append_nil]
    rfl
  obtain ⟨e, he⟩ := parseDecl_of_stuck htext
    ((phrase_typeAtoms isName_abc hs).spelled _ (by decide))
    (startsDecl_typeAtoms "abc" s) (stuck_topLevel_shape hs hr "abc")
  exact ⟨e, by rw [Shape.read, he]; rfl⟩

/-! ### What is read -/

/-- **The declarations of a file that was read are well-formed.** -/
theorem wellFormed_of_parseSource {source : String} {f : SourceFile}
    (h : parseSource source = .ok (.ok f)) : ∀ d ∈ f.decls, d.WellFormed := by
  obtain ⟨ts, rest, hts, hrun⟩ := exists_run_of_parseSource h
  exact (ensures_file ts (scanned_of_scan hts) f rest hrun).1

theorem wellFormed_of_parseDecl {text : String} {d : Decl} (h : parseDecl text = .ok (.ok d)) :
    d.WellFormed := by
  obtain ⟨package, hfile⟩ := parseDecl_eq_ok_iff.1 h
  exact wellFormed_of_parseSource hfile d (by simp)

/-- The type that a well-formed declaration gives a name is well-formed. -/
theorem wellFormed_of_shapeOf {text : String} {d : Decl} {s : Shape} (hd : d.WellFormed)
    (h : Decl.shapeOf text d = .ok s) : s.WellFormed := by
  unfold Decl.shapeOf at h
  split at h
  · obtain rfl := Except.ok.inj h
    exact hd.2
  · obtain rfl := Except.ok.inj h
    exact Shape.everywhere_any.2 ⟨trivial, trivial⟩
  · obtain rfl := Except.ok.inj h
    exact Shape.everywhere_emptyStruct.2 ⟨trivial, trivial⟩
  · cases h
  · cases h

/-- **What is read as a type is well-formed.** -/
theorem wellFormed_of_read {text : String} {s : Shape} (h : Shape.read text = .ok s) :
    s.WellFormed := by
  obtain ⟨r, hdecl, hr⟩ := exists_of_bind_eq_ok h
  obtain ⟨d, rfl, hd⟩ := exists_of_bind_eq_ok (orUnreadable_eq_ok_iff.1 hr)
  exact wellFormed_of_shapeOf (wellFormed_of_parseDecl hdecl) hd

/-- A well-formed shape is read as itself exactly if no channel in it is turned around and no
result list in it is a lone variadic entry. -/
theorem reads_itself_iff {s : Shape} (h : s.WellFormed) :
    Shape.read s.text = .ok s ↔ (s.Everywhere fun t ↦ t.isTurned = false) ∧ s.Readable := by
  by_cases hr : s.Readable
  · rw [read_text_of_readable h.proper hr, Except.ok.injEq, Shape.reread_eq_self_iff h]
    exact ⟨fun ht ↦ ⟨ht, hr⟩, fun ht ↦ ht.1⟩
  · obtain ⟨e, he⟩ := read_text_of_not_readable h.proper hr
    rw [he]
    exact ⟨fun hok ↦ (nomatch hok), fun ht ↦ absurd ht.2 hr⟩

/-- **Types survive being written and read, but for two forms.** Whatever is read as a type is
well-formed; and of the well-formed shapes exactly those are read back as themselves that contain
no bidirectional channel of receive-only channels and no function type whose results are one
variadic entry without a name. -/
theorem type_round_trip :
    (∀ text s, Shape.read text = .ok s → s.WellFormed) ∧
      ∀ s : Shape, s.WellFormed →
        (Shape.read s.text = .ok s ↔ (s.Everywhere fun t ↦ t.isTurned = false) ∧
          s.Everywhere fun t ↦ t.isLoneVariadic = false) :=
  ⟨fun _ _ h ↦ wellFormed_of_read h, fun _ h ↦ reads_itself_iff h⟩

/-- A channel of channels of functions is read as itself. -/
theorem type_round_trip_chan :
    Shape.read "chan chan<- func(x *pkg.Item, ys ...interface{}) error" =
      .ok (.channel .both (.channel .send (.function
        ⟨[⟨some "x", .pointer (.named (some "pkg") "Item"), false⟩, ⟨some "ys", .any, true⟩],
         [⟨none, .primitive .error, false⟩]⟩))) := by
  refine Eq.trans (congrArg Shape.read ?_) ((type_round_trip.2 (.channel .both (.channel .send
    (.function ⟨[⟨some "x", .pointer (.named (some "pkg") "Item"), false⟩, ⟨some "ys", .any, true⟩],
      [⟨none, .primitive .error, false⟩]⟩))) (by decide +kernel)).2
    ⟨by decide +kernel, by decide +kernel⟩)
  decide +kernel

end GoDecorator
