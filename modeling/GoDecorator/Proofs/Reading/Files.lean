import GoDecorator.Proofs.Parser.Stretches
import GoDecorator.Proofs.Token.Names
import GoDecorator.Reading

/-!
# Reading files of written declarations

Generated text is read by putting it into a file of its own. This file says what comes of that, in
terms of what the parser for declarations does with the tokens of the text.

## Texts that are read

`Writes text d` says that **the text is read as the declaration `d`, whatever declarations stand
before and after it**. A file of such texts is read as the declarations (`parseSource_of_writes`),
and one text alone as the one declaration (`read_of_writes`).

The statement quantifies over the places of the tokens, because the body of a function remembers
which of its tokens touch. So it is about atoms (`WritesAtoms`): where the tokens of a declaration
stand depends on all the text before them, but how they stand to each other does not.

A file is a package clause and then declarations with an empty line between them. The parser takes
one declaration in a round, and a round ends in front of a separator or the end of the source. The
induction over the declarations is `run_roundsWithin_fileAtoms`.

## Texts that are not read

A text whose first tokens leave the parser for declarations stuck is not read, whatever comes after
those tokens (`parseDecl_of_stuck`, `read_of_stuck`). No more is known of the rest of the text than
that it has tokens, which is so since it is read with a line break after it. They are of no
consequence: a parser that is stuck either fails or stops in front of an ellipsis, which is no
separator and starts no declaration.
-/

namespace GoDecorator

open Token

namespace Parser

/-! ### The parts of the parser for files -/

/-- One round of the parser for files. -/
def declRound : Parser (Round (List Decl)) := do
  skipSeparators
  if ← atEnd then return .stop
  let ds ← topLevel
  unless ← atSeparator do unexpected .endOfDeclaration
  return .more ds

/-- The parser for files, with one declaration to a round. -/
theorem file_eq :
    file = (do
      skipSeparators
      expect (.keyword .package)
      let package ← ident
      let decls ← rounds declRound
      return ⟨package, decls.flatten⟩) := rfl

/-- The path of an import. -/
def importPath : Parser Unit := do
  if let .str _ ← kind then skip else unexpected (.token (.str ""))

/-- A token that a declaration can start with: no separator, and not the end of the source. -/
def StartsDecl (k : Kind) : Prop := k.isSeparator = false ∧ k ≠ .eof

/-- Separators are skipped up to a token that is none. -/
theorem dropWhile_separators {ns ts : List Token} (hns : ∀ t ∈ ns, t.kind.isSeparator = true)
    (hts : (first ts).kind.isSeparator = false) :
    (ns ++ ts).dropWhile (fun t ↦ t.kind.isSeparator) = ts := by
  rw [List.dropWhile_append_of_pos hns]
  cases ts with
  | nil => rfl
  | cons t ts =>
    rw [first_cons] at hts
    rw [List.dropWhile_cons_of_neg (by simp [hts])]

/-- A round skips separators and reads a declaration, after which a separator has to follow. -/
theorem run_declRound {ns ts : List Token} (hns : ∀ t ∈ ns, t.kind.isSeparator = true)
    (hts : StartsDecl (first ts).kind) :
    declRound.run (ns ++ ts) = topLevel.run ts >>= fun r ↦ StateT.run (do
      unless ← atSeparator do unexpected .endOfDeclaration
      return .more r.1) r.2 := by
  simp only [declRound, StateT.run_bind, run_skipSeparators, ok_bind,
    dropWhile_separators hns hts.1, atEnd, run_isNext]
  rw [if_neg (by simpa using hts.2), StateT.run_bind]
  rfl

/-- A round reads a declaration. -/
theorem run_declRound_more {ns ts rest : List Token} {ds : List Decl}
    (hns : ∀ t ∈ ns, t.kind.isSeparator = true) (hts : StartsDecl (first ts).kind)
    (h : topLevel.run ts = .ok (ds, rest)) (hrest : (first rest).kind.isSeparator = true) :
    declRound.run (ns ++ ts) = .ok (.more ds, rest) := by
  rw [run_declRound hns hts, h]
  simp [atSeparator, hrest]

/-- The last round finds the end of the source. -/
theorem run_declRound_stop {ns ts : List Token} (hns : ∀ t ∈ ns, t.kind.isSeparator = true)
    (hts : (first ts).kind = .eof) : declRound.run (ns ++ ts) = .ok (.stop, ts) := by
  have hdrop := @dropWhile_separators _ ts hns (by rw [hts]; rfl)
  simp [declRound, hdrop, atEnd, hts]

/-- A round fails if the declaration cannot be read, or if something follows it on its line. -/
theorem run_declRound_error {ns ts : List Token} (hns : ∀ t ∈ ns, t.kind.isSeparator = true)
    (hts : StartsDecl (first ts).kind)
    (h : (∃ e, topLevel.run ts = .error e) ∨
      ∃ ds rest', topLevel.run ts = .ok (ds, rest') ∧ StartsDecl (first rest').kind) :
    ∃ e, declRound.run (ns ++ ts) = .error e := by
  rw [run_declRound hns hts]
  rcases h with ⟨e, he⟩ | ⟨ds, rest', hrun, hfirst⟩
  · exact ⟨e, by rw [he]; rfl⟩
  · rw [hrun]
    simp [atSeparator, hfirst.1, hfirst.2]

/-- The parser for files after the package clause. -/
theorem run_file {t u : Token} {ts : List Token} {name : String}
    (ht : t.kind = .keyword .package) (hu : u.kind = .ident name) :
    file.run (t :: u :: ts) =
      (rounds declRound).run ts >>= fun r ↦ .ok (⟨name, r.1.flatten⟩, r.2) := by
  have hdrop : (t :: u :: ts).dropWhile (fun t ↦ t.kind.isSeparator) = t :: u :: ts :=
    @dropWhile_separators [] _ (by simp) (by rw [first_cons, ht]; rfl)
  rw [file_eq, StateT.run_bind, run_skipSeparators, ok_bind, hdrop, StateT.run_bind,
    run_expect_cons ht, ok_bind]
  simp [ident, hu]
  rfl

end Parser

open GoDecorator.Parser

/-! ### Files of declarations -/

/-- The atoms are read as the declaration, wherever they stand and whatever comes after the line
break that follows them. -/
structure WritesAtoms (as : List Atom) (d : Decl) : Prop where
  /-- The tokens are read back in front of a line break. -/
  spelled : ∀ more, SpelledAt as ('\n' :: more)
  /-- The first token starts a declaration. -/
  starts : ∃ k ks, kinds as = k :: ks ∧ StartsDecl k
  /-- The tokens are read as the declaration. -/
  read : ∀ offset line rest, (first rest).kind.isSeparator = true →
    topLevel.run (place offset line as ++ rest) = .ok ([d], rest)

/-- **The text is read as the declaration**, whatever declarations stand before and after it. -/
def Writes (text : String) (d : Decl) : Prop :=
  ∃ as, atomsText as = text.toList ∧ WritesAtoms as d

/-- The atoms after the package clause of a file with the given declarations. -/
def fileAtoms : List (List Atom) → List Atom
  | [] => [.token .newline]
  | as :: ass => .token .newline :: .token .newline :: (as ++ fileAtoms ass)

/-- The atoms after the package clause start with a line break. -/
theorem exists_cons_atomsText_fileAtoms (ass : List (List Atom)) :
    ∃ more, atomsText (fileAtoms ass) = '\n' :: more := by
  cases ass <;> exact ⟨_, rfl⟩

/-- Declarations that are read back in front of a line break are read back in a file. -/
theorem spelledAt_fileAtoms {ass : List (List Atom)}
    (h : ∀ as ∈ ass, ∀ more, SpelledAt as ('\n' :: more)) : SpelledAt (fileAtoms ass) [] := by
  induction ass with
  | nil => exact ⟨readsBefore_newline _ _ rfl, trivial⟩
  | cons as ass ih =>
    refine ⟨readsBefore_newline _ _ rfl, readsBefore_newline _ _ rfl,
      (spelledAt_append ..).2 ⟨?_, ?_⟩⟩
    · obtain ⟨more, hmore⟩ := exists_cons_atomsText_fileAtoms ass
      rw [hmore]
      exact h as (by simp) _
    · exact ih fun bs hbs ↦ h bs (List.mem_cons_of_mem _ hbs)

/-- The tokens of the declarations of a file are read round by round. -/
theorem run_roundsWithin_fileAtoms {ass : List (List Atom)} {ds : List Decl}
    (h : List.Forall₂ WritesAtoms ass ds) {stop : Token} (hstop : stop.kind = .eof)
    {budget : Nat} (hb : ass.length ≤ budget) (offset line : Nat) :
    (roundsWithin declRound (budget + 1)).run (place offset line (fileAtoms ass) ++ [stop]) =
      .ok (ds.map ([·]), [stop]) := by
  induction h generalizing budget offset line with
  | nil =>
    refine run_roundsWithin_stop ?_ budget
    exact @run_declRound_stop (place offset line [.token .newline]) [stop]
      (by simp [place, Kind.isSeparator]) hstop
  | @cons as d ass ds hd hrest ih =>
    obtain ⟨budget, rfl⟩ : ∃ b, budget = b + 1 := ⟨budget - 1, by
      rw [List.length_cons] at hb
      omega⟩
    rw [List.length_cons] at hb
    obtain ⟨k, ks, hk, hstart⟩ := hd.starts
    rw [fileAtoms]
    -- the two line breaks before the declaration are left out, and one after it ends the round
    have hplace : ∃ ns offset' line' line'', (∀ t ∈ ns, t.kind.isSeparator = true) ∧
        place offset line (.token .newline :: .token .newline :: (as ++ fileAtoms ass)) ++ [stop] =
          ns ++ (place offset' line' as ++
            (place (offset' + (atomsText as).length) line'' (fileAtoms ass) ++ [stop])) := by
      obtain ⟨line', h₁⟩ := place_append offset line [.token .newline, .token .newline]
        (as ++ fileAtoms ass)
      obtain ⟨line'', h₂⟩ := place_append (offset + (atomsText
        [.token .newline, .token .newline]).length) line' as (fileAtoms ass)
      refine ⟨place offset line [.token .newline, .token .newline],
        offset + (atomsText [.token .newline, .token .newline]).length, line', line'', ?_, ?_⟩
      · simp [place, Kind.isSeparator]
      · show place offset line ([.token .newline, .token .newline] ++ (as ++ fileAtoms ass)) ++
          [stop] = _
        rw [h₁, h₂, List.append_assoc, List.append_assoc]
    obtain ⟨ns, offset', line', line'', hns, hplace⟩ := hplace
    have hfirst : ∀ rest, (first (place offset' line' as ++ rest)).kind = k :=
      fun rest ↦ first_append (by rw [map_kind_place]; exact hk)
    have hsep : (first (place (offset' + (atomsText as).length) line'' (fileAtoms ass) ++
        [stop])).kind.isSeparator = true := by
      cases ass <;> rfl
    rw [hplace, run_roundsWithin_more (run_declRound_more hns (by rw [hfirst]; exact hstart)
      (hd.read _ _ _ hsep) hsep), ih (by omega)]
    rfl

/-- The atoms of the package clause that generated text is read with. -/
def clauseAtoms : List Atom := [.token (.keyword .package), .blank ' ', .token (.ident "abc")]

/-- The package clause is read back in front of a line break. -/
theorem spelled_clauseAtoms : Spelled clauseAtoms (some '\n') :=
  ⟨readsBefore_of_endsBefore (by decide), .inl rfl, readsBefore_of_endsBefore (by decide), trivial⟩

/-- After the package clause the declarations are read. -/
theorem run_file_clauseAtoms (as : List Atom) (rest : List Token) :
    ∃ offset line, file.run (place 0 1 (clauseAtoms ++ as) ++ rest) =
      (rounds declRound).run (place offset line as ++ rest) >>=
        fun r ↦ .ok (⟨"abc", r.1.flatten⟩, r.2) := by
  obtain ⟨line, hplace⟩ := place_append 0 1 clauseAtoms as
  refine ⟨0 + (atomsText clauseAtoms).length, line, ?_⟩
  rw [hplace, List.append_assoc]
  exact run_file rfl rfl

/-- The text of a file after the package clause. -/
theorem atomsText_fileAtoms {ass : List (List Atom)} {texts : List String}
    (h : List.Forall₂ (fun as text ↦ atomsText as = String.toList text) ass texts)
    (hne : texts ≠ []) :
    atomsText (fileAtoms ass) = ("\n\n" ++ "\n\n".intercalate texts ++ "\n").toList := by
  induction h with
  | nil => exact absurd rfl hne
  | @cons as text ass texts hhead hrest ih =>
    cases hrest with
    | nil => simp [fileAtoms, hhead, Kind.text]
    | cons h₁ h₂ =>
      rw [fileAtoms, atomsText_token, atomsText_token, atomsText_append, hhead, ih (by simp)]
      simp [Kind.text]

/-- The atoms of written declarations. -/
theorem exists_atoms_of_writes {texts : List String} {ds : List Decl}
    (h : List.Forall₂ Writes texts ds) :
    ∃ ass, List.Forall₂ (fun as text ↦ atomsText as = String.toList text) ass texts ∧
      List.Forall₂ WritesAtoms ass ds ∧ ∀ as ∈ ass, ∀ more, SpelledAt as ('\n' :: more) := by
  induction h with
  | nil => exact ⟨[], .nil, .nil, by simp⟩
  | cons hd _ ih =>
    obtain ⟨as, htext, has⟩ := hd
    obtain ⟨ass, htexts, hass, hspelled⟩ := ih
    exact ⟨as :: ass, .cons htext htexts, .cons has hass,
      List.forall_mem_cons.2 ⟨has.spelled, hspelled⟩⟩

/-- Every declaration of a file has a token at least. -/
theorem length_le_fileAtoms (ass : List (List Atom)) :
    ass.length ≤ (kinds (fileAtoms ass)).length := by
  induction ass with
  | nil => simp
  | cons as ass ih =>
    simp only [fileAtoms, kinds_token, kinds_append, List.length_cons, List.length_append]
    omega

/-- The package clause and the declarations are read back. -/
theorem spelledAt_clauseAtoms_append {ass : List (List Atom)}
    (h : ∀ as ∈ ass, ∀ more, SpelledAt as ('\n' :: more)) :
    SpelledAt (clauseAtoms ++ fileAtoms ass) [] := by
  refine (spelledAt_append ..).2 ⟨?_, spelledAt_fileAtoms h⟩
  obtain ⟨more, hmore⟩ := exists_cons_atomsText_fileAtoms ass
  rw [hmore]
  exact Spelled.spelledAt spelled_clauseAtoms

/-- **A file of written declarations is read as the declarations.** -/
theorem parseSource_of_writes {texts : List String} {ds : List Decl}
    (h : List.Forall₂ Writes texts ds) :
    parseSource ("package abc\n\n" ++ "\n\n".intercalate texts ++ "\n") =
      .ok (.ok ⟨"abc", ds⟩) := by
  by_cases hne : texts = []
  · subst hne
    obtain rfl := List.forall₂_nil_left_iff.1 h
    decide +kernel
  obtain ⟨ass, htexts, hwrites, hspelled⟩ := exists_atoms_of_writes h
  obtain ⟨stop, hscan⟩ := @scan_atoms _ (spelledAt_clauseAtoms_append hspelled)
    ("package abc\n\n" ++ "\n\n".intercalate texts ++ "\n") (by
      rw [atomsText_append, atomsText_fileAtoms htexts hne]
      simp [clauseAtoms, Kind.text, Keyword.text])
  obtain ⟨offset, line, hrun⟩ := run_file_clauseAtoms (fileAtoms ass) [⟨.eof, stop⟩]
  have hlength : ass.length ≤ (place offset line (fileAtoms ass) ++
      [(⟨.eof, stop⟩ : Token)]).length := by
    have hle := length_le_fileAtoms ass
    rw [← map_kind_place offset line, List.length_map] at hle
    rw [List.length_append]
    omega
  rw [parseSource, hscan]
  show Except.ok ((file.run _).map Prod.fst) = _
  rw [hrun, run_rounds, run_roundsWithin_fileAtoms hwrites rfl hlength]
  simp [Except.map, ← List.flatMap_def]

/-- A file is read from the tokens of the text. -/
theorem exists_run_of_parseSource {source : String} {f : SourceFile}
    (h : parseSource source = .ok (.ok f)) :
    ∃ ts rest, scan source = some ts ∧ file.run ts = .ok (f, rest) := by
  rw [parseSource] at h
  split at h
  next => cases h
  next ts hts =>
    cases hrun : file.run ts with
    | error e =>
      rw [hrun] at h
      cases h
    | ok r =>
      rw [hrun] at h
      obtain rfl : r.1 = f := Except.ok.inj (Except.ok.inj h)
      exact ⟨ts, r.2, hts, hrun⟩

/-! ### One declaration -/

/-- A declaration is read from a text if a file with the text in it has this one declaration. -/
theorem parseDecl_eq_ok_iff {text : String} {d : Decl} :
    parseDecl text = .ok (.ok d) ↔
      ∃ package, parseSource ("package abc\n\n" ++ text ++ "\n") = .ok (.ok ⟨package, [d]⟩) := by
  constructor
  · intro h
    rw [parseDecl] at h
    obtain ⟨r, hfile, hr⟩ := exists_of_bind_eq_ok h
    rcases r with e | ⟨package, _ | ⟨d', _ | ⟨d'', ds⟩⟩⟩
    · cases hr
    · cases hr
    · obtain rfl : d' = d := Except.ok.inj (Except.ok.inj hr)
      exact ⟨package, hfile⟩
    · cases hr
  · rintro ⟨package, hfile⟩
    rw [parseDecl, hfile]
    rfl

/-- A written declaration is found as the one declaration of its file. -/
theorem parseDecl_of_writes {text : String} {d : Decl} (h : Writes text d) :
    parseDecl text = .ok (.ok d) := by
  have hfile := parseSource_of_writes (.cons h .nil)
  rw [String.intercalate_singleton] at hfile
  exact parseDecl_eq_ok_iff.2 ⟨"abc", hfile⟩

/-- What is read is not changed by the message for what is not. -/
theorem orUnreadable_eq_ok_iff {α : Type} {fragment : Fragment} {text : String}
    {r : Except ParseError α} {a : α} : orUnreadable fragment text r = .ok a ↔ r = .ok a := by
  cases r <;> simp [orUnreadable]

theorem read_eq_ok_iff {text : String} {d : Decl} :
    Decl.read text = .ok d ↔ parseDecl text = .ok (.ok d) := by
  constructor
  · intro h
    obtain ⟨r, hdecl, hr⟩ := exists_of_bind_eq_ok h
    rwa [orUnreadable_eq_ok_iff.1 hr] at hdecl
  · intro h
    rw [Decl.read, h]
    rfl

/-- **A written declaration is read as itself.** -/
theorem read_of_writes {text : String} {d : Decl} (h : Writes text d) : Decl.read text = .ok d :=
  read_eq_ok_iff.2 (parseDecl_of_writes h)

/-- The tokens of a source that ends in a text and a line break: those of the atoms before the text,
and those of the text. -/
theorem exists_scan_of_ends {source : String} {as : List Atom} {text : List Char}
    (hsource : source.toList = atomsText as ++ (text ++ ['\n']))
    (has : Spelled as (text ++ ['\n']).head?) :
    ∃ offset line ts, scanFrom offset line (text ++ ['\n']) = some ts ∧
      scan source = some (place 0 1 as ++ ts) := by
  obtain ⟨line, hscan⟩ := scanFrom_atoms has.spelledAt 0 1
  obtain ⟨ts, hts⟩ := @exists_scanFrom (text ++ ['\n']) (by simp) (0 + (atomsText as).length) line
  refine ⟨_, _, ts, hts, ?_⟩
  rw [scan, hsource, hscan, hts]
  rfl

/-- **A text whose first tokens leave the parser for declarations stuck is not read**, whatever
comes after them. -/
theorem parseDecl_of_stuck {text : String} {as : List Atom} {more : List Char}
    (htext : text.toList = atomsText as ++ more) (hspelled : Spelled as (more ++ ['\n']).head?)
    (hstart : ∃ k ks, kinds as = k :: ks ∧ StartsDecl k) (hstuck : Stuck topLevel (kinds as)) :
    ∃ e, parseDecl text = .ok (.error e) := by
  obtain ⟨k, ks, hk, hkstart⟩ := hstart
  let body : List Atom := .token .newline :: .token .newline :: as
  have hbody : Spelled (clauseAtoms ++ body) (more ++ ['\n']).head? :=
    (spelled_append ..).2 ⟨spelled_clauseAtoms, readsBefore_newline _, readsBefore_newline _,
      hspelled⟩
  have hsource : ("package abc\n\n" ++ text ++ "\n").toList =
      atomsText (clauseAtoms ++ body) ++ (more ++ ['\n']) := by
    simp [body, clauseAtoms, htext, Kind.text, Keyword.text]
  obtain ⟨-, -, ts, -, hscan⟩ := exists_scan_of_ends hsource hbody
  obtain ⟨offset, line', hrun⟩ := run_file_clauseAtoms body ts
  obtain ⟨line'', hplace⟩ : ∃ line'', place offset line' body = _ :=
    place_append offset line' [.token .newline, .token .newline] as
  have hround : ∃ e, declRound.run (place offset line' body ++ ts) = .error e := by
    have hfirst : ∀ offset line, (first (place offset line as ++ ts)).kind = k :=
      fun offset line ↦ first_append (by rw [map_kind_place]; exact hk)
    rw [hplace, List.append_assoc]
    refine run_declRound_error (by simp [place, Kind.isSeparator]) ?_ ?_
    · rw [hfirst]
      exact hkstart
    · refine (hstuck _ ts (map_kind_place ..)).imp_right ?_
      rintro ⟨ds, rest', hrun, hellipsis⟩
      exact ⟨ds, rest', hrun, by rw [hellipsis]; exact ⟨rfl, by simp⟩⟩
  obtain ⟨e, he⟩ := hround
  have hparse : parseSource ("package abc\n\n" ++ text ++ "\n") = .ok (.error e) := by
    rw [parseSource, hscan]
    show Except.ok ((file.run (place 0 1 (clauseAtoms ++ body) ++ ts)).map Prod.fst) = _
    rw [hrun, run_rounds, run_roundsWithin_error he]
    rfl
  exact ⟨e, by rw [parseDecl, hparse]; rfl⟩

/-- Text that is not read is an error of the generator, and not of its input. -/
theorem read_of_stuck {text : String} {as : List Atom} {more : List Char}
    (htext : text.toList = atomsText as ++ more) (hspelled : Spelled as (more ++ ['\n']).head?)
    (hstart : ∃ k ks, kinds as = k :: ks ∧ StartsDecl k) (hstuck : Stuck topLevel (kinds as)) :
    ∃ e, Decl.read text = .error (.error (.unreadableOutput .declaration text e)) := by
  obtain ⟨e, he⟩ := parseDecl_of_stuck htext hspelled hstart hstuck
  exact ⟨e, by rw [Decl.read, he]; rfl⟩

end GoDecorator
