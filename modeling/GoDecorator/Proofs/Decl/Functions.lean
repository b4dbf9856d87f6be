import GoDecorator.Proofs.Decl.Layout
import GoDecorator.Proofs.Reading.Types

/-!
# Reading functions

A function is written as its head, that is its receiver, its name and its signature, and its body
between braces. The parser for declarations takes the head apart and leaves the body as lines.

## Functions that are read

**A written function is read as such** (`writes_func`), whatever atoms its body has, as long as the
brackets in it match. In particular the printed form of a function with a legible body is read as
the function with its body tuned (`writes_text_tuned`), and as the function itself if the body is
sound (`writes_text_func`).

The head is divided once more, since its two parts are read in different ways. Up to the name there
is nothing to choose, and `run_topLevel_func` says where the parser stands after it. The signature
is a phrase like any other type, and what comes after it is a blank and a brace, so that it is read
to its end.

## Functions that are not read

The names of parameters may be derived from the names of their types, and then a name may be broken.
`SignatureOf.Drafted` allows for that, and `SignatureOf.Writable` says when nothing stands in the
way of reading. If something does, the head alone is not read (`read_of_not_writable`), whatever the
body is: the parser does not come that far.

Two things can stand in the way, and they are found in different places. A broken name is met in the
list of parameters; a lone variadic result is met where the results are over for the parser, with an
ellipsis as the next token. In both cases there is a front part of the text whose tokens are known
and leave the parser stuck (`SignatureOf.Drafted.exists_stuck`).
-/

namespace GoDecorator

open Token GoDecorator.Parser

/-! ### Heads -/

/-- The atoms of a receiver and the blank after it. -/
def receiverAtoms : Option Param → List Atom
  | none => []
  | some r => .token (.opening .paren) :: (r.atoms ++ [.token (.closing .paren), .blank ' '])

/-- The text in front of the body of a function. -/
def headText (receiver : Option Param) (name : String) (sig : Signature) : String :=
  "func " ++ (receiver.map fun r ↦ "(" ++ r.text ++ ") ").getD "" ++ name ++ sig.text

/-- The atoms of a function up to its name. -/
def leadAtoms (receiver : Option Param) (name : String) : List Atom :=
  .token (.keyword .func) :: .blank ' ' :: (receiverAtoms receiver ++ [.token (.ident name)])

/-- The text of a function up to its name. -/
theorem atomsText_leadAtoms (receiver : Option Param) (name : String) :
    atomsText (leadAtoms receiver name) =
      ("func " ++ (receiver.map fun r ↦ "(" ++ r.text ++ ") ").getD "" ++ name).toList := by
  cases receiver <;> simp [leadAtoms, receiverAtoms, Kind.text, Keyword.text]

/-- A receiver that can be read. -/
structure ReceiverOk (r : Param) : Prop where
  /-- Its name is an identifier. -/
  names : ∀ n ∈ r.name, IsName n
  /-- The names in its type are identifiers. -/
  proper : r.shape.Proper
  /-- Its type can be read. -/
  readable : r.shape.Readable

section Lead

variable {receiver : Option Param} {name : String}

/-- The atoms up to the name are read back in front of anything that is not part of a name. -/
theorem spelled_leadAtoms (hr : ∀ r ∈ receiver, ReceiverOk r) (hn : IsName name)
    {next : Option Char} (hnext : next.any Text.isIdentPart = false) :
    Spelled (leadAtoms receiver name) next := by
  have hname : Spelled [.token (.ident name)] next := ⟨hn.readsBefore hnext, trivial⟩
  refine ⟨closed_keyword .func _ (by rw [firstChar_blank]; decide), .inl rfl,
    (spelled_append ..).2 ⟨?_, hname⟩⟩
  cases receiver with
  | none => trivial
  | some r =>
    have hr := hr r rfl
    refine ⟨readsBefore_of_isLoose (isLoose_bracket .paren).1 _, (spelled_append ..).2 ⟨?_, ?_⟩⟩
    · exact (phrase_param hr.names (Shape.phrase_atoms hr.proper)).spelled _
        (firstChar_closing .paren _ _)
    · exact ⟨readsBefore_of_isLoose (isLoose_bracket .paren).2 _, .inl rfl, trivial⟩

/-- A function starts with a token that a declaration starts with. -/
theorem startsDecl_leadAtoms (as : List Atom) :
    ∃ k ks, kinds (leadAtoms receiver name ++ as) = k :: ks ∧ StartsDecl k :=
  ⟨_, _, rfl, rfl, by simp⟩

end Lead

namespace Parser

/-- What is read after the name of a function. -/
def funcRest (receiver : Option Param) (name : String) : Parser (List Decl) := do
  let sig ← signature
  return [.func ⟨receiver, name, sig, ← block⟩]

/-- The parser for declarations takes the receiver and the name of a function. -/
theorem run_topLevel_func {receiver : Option Param} (hr : ∀ r ∈ receiver, ReceiverOk r)
    {name : String} {ts rest : List Token}
    (hts : ts.map Token.kind = kinds (leadAtoms receiver name)) :
    topLevel.run (ts ++ rest) = (funcRest (receiver.map ParamOf.reread) name).run rest := by
  cases receiver with
  | none =>
    obtain ⟨t, ts, rfl, ht, hts⟩ := List.map_eq_cons_iff.1 hts
    obtain ⟨u, rfl, hu⟩ := List.map_eq_singleton_iff.1 hts
    simp [topLevel, ht, funcDecl, run_expect, receiver, run_accept, hu, ident, funcRest]
  | some r =>
    have hr := hr r rfl
    have hkinds : kinds (leadAtoms (some r) name) = .keyword .func :: .opening .paren ::
        (kinds r.atoms ++ [.closing .paren, .ident name]) := by
      simp [leadAtoms, receiverAtoms]
    rw [hkinds] at hts
    obtain ⟨t, ts, rfl, ht, hts⟩ := List.map_eq_cons_iff.1 hts
    obtain ⟨u, ts, rfl, hu, hts⟩ := List.map_eq_cons_iff.1 hts
    obtain ⟨ts₁, ts₂, rfl, hts₁, hts₂⟩ := List.map_eq_append_iff.1 hts
    obtain ⟨v, ts₂, rfl, hv, hts₂⟩ := List.map_eq_cons_iff.1 hts₂
    obtain ⟨w, rfl, hw⟩ := List.map_eq_singleton_iff.1 hts₂
    -- the receiver is read as a parameter list with one entry
    have huniform : IsUniform [r] := by
      cases hname : r.name with
      | none => exact .inr (by simp [hname])
      | some n => exact .inl (by simp [hname])
    obtain ⟨_, rfl, hlist⟩ := @reads_paramList shape [r] huniform
      (by simpa using reads_shape hr.proper hr.readable) (fun _ ↦ True) (ts₁ ++ [v]) (w :: rest)
      (by simp [hts₁, hv]) trivial
    rw [List.append_assoc, List.singleton_append] at hlist
    simp [topLevel, ht, funcDecl, run_expect, receiver, run_accept, hu, hlist, hw, ident, funcRest]

/-- A block is read as its lines. -/
theorem run_block {t : Token} {ts rest : List Token} {line : Line} {lines : List Line}
    (ht : t.kind = .opening .brace)
    (h : bodyLines t.span none 0 ts = .ok (line, lines, rest)) :
    block.run (t :: ts) = .ok (.ofLines (line :: lines), rest) := by
  simp [block, run_expect, ht, h]

end Parser

/-! ### Signatures -/

/-- The parameters of a signature have names, which may be broken, and its results have none. -/
structure SignatureOf.Drafted (sig : Signature) : Prop where
  /-- Every parameter has a name. -/
  params : ∀ p ∈ sig.params, ∃ n, p.name = some n ∧ IsLabel n
  /-- No result has one. -/
  results : ∀ r ∈ sig.results, r.name = none
  /-- The names in the types are identifiers. -/
  shapes : ∀ p ∈ sig.params ++ sig.results, p.shape.Proper

/-- **Nothing stands in the way of reading the signature**: the names of its parameters are
identifiers, and there is no lone variadic result, neither its own nor one inside a type. -/
def SignatureOf.Writable (sig : Signature) : Prop :=
  (∀ p ∈ sig.params, ∀ n ∈ p.name, IsName n) ∧ (Shape.function sig).Readable

/-- The types of the results have identifiers for names. -/
theorem SignatureOf.Drafted.proper_results {sig : Signature} (h : sig.Drafted) :
    ∀ r ∈ sig.results, r.shape.Proper :=
  fun r hr ↦ h.shapes r (List.mem_append_right _ hr)

/-- Without broken names, a drafted signature is a proper type. -/
theorem SignatureOf.Drafted.proper {sig : Signature} (h : sig.Drafted)
    (hnames : ∀ p ∈ sig.params, ∀ n ∈ p.name, IsName n) : (Shape.function sig).Proper := by
  obtain ⟨ps, rs⟩ := sig
  refine Shape.everywhere_function.2 ⟨⟨.inl fun p hp ↦ ?_, .inr h.results, fun p hp n hn ↦ ?_⟩,
    fun p hp ↦ h.shapes p (List.mem_append_left _ hp),
    fun r hr ↦ h.shapes r (List.mem_append_right _ hr)⟩
  · obtain ⟨n, hn, -⟩ := h.params p hp
    rw [hn]
    rfl
  · rcases List.mem_append.1 hp with hp | hp
    · exact hnames p hp n hn
    · rw [h.results p hp] at hn
      cases hn

/-- The text of a signature is read as the signature that its types are read as. -/
theorem reads_signature {sig : Signature} (hs : (Shape.function sig).Proper)
    (hr : (Shape.function sig).Readable) :
    Reads signature (kinds sig.atoms) EndsType (· = sig.reread) := by
  obtain ⟨ps, rs⟩ := sig
  obtain ⟨⟨hps, hrs, -⟩, hpss, hrss⟩ := Shape.everywhere_function.1 hs
  obtain ⟨hlone, hpsr, hrsr⟩ := Shape.everywhere_function.1 hr
  refine reads_signatureOf hps hrs (List.forall_mem_append.2
    ⟨fun p hp ↦ reads_shape (hpss p hp) (hpsr p hp),
      fun r hr ↦ reads_shape (hrss r hr) (hrsr r hr)⟩) ?_
  rintro s rfl
  cases hlone

/-- A signature with proper types is read back from its text. -/
theorem phrase_signature_of_proper {sig : Signature} (hs : (Shape.function sig).Proper) :
    Phrase sig.atoms := by
  obtain ⟨ps, rs⟩ := sig
  obtain ⟨⟨-, -, hnames⟩, hpss, hrss⟩ := Shape.everywhere_function.1 hs
  refine phrase_signature (fun p hp ↦ ?_) fun r hr ↦ ?_
  · exact phrase_param (hnames p (List.mem_append_left _ hp)) (Shape.phrase_atoms (hpss p hp))
  · exact phrase_param (hnames r (List.mem_append_right _ hr)) (Shape.phrase_atoms (hrss r hr))

/-! ### Functions -/

/-- A blank, and the atoms of a body between braces. -/
def blockAtoms (body : List Atom) : List Atom :=
  [.blank ' ', .token (.opening .brace)] ++ (body ++ [.token (.closing .brace)])

/-- The atoms of a function, where `body` are those between its braces. -/
def funcAtoms (receiver : Option Param) (name : String) (sig : Signature) (body : List Atom) :
    List Atom :=
  leadAtoms receiver name ++ (sig.atoms ++ blockAtoms body)

section Written

variable {receiver : Option Param} {name : String} {sig : Signature} {body : List Atom}

/-- The atoms of a function are read back if those of its body are. -/
theorem spelledAt_funcAtoms (hr : ∀ r ∈ receiver, ReceiverOk r) (hn : IsName name)
    (hs : (Shape.function sig).Proper) (hspelled : ∀ more, SpelledAt body ('\x7d' :: more))
    (more : List Char) : SpelledAt (funcAtoms receiver name sig body) ('\n' :: more) := by
  have hclose : SpelledAt (body ++ [.token (.closing .brace)]) ('\n' :: more) :=
    (spelledAt_append ..).2
      ⟨hspelled _, readsBefore_of_isLoose (isLoose_bracket .brace).2 _ _ rfl, trivial⟩
  have hhead : Spelled (leadAtoms receiver name ++
      (sig.atoms ++ [.blank ' ', .token (.opening .brace)]))
      (atomsText (body ++ [.token (.closing .brace)]) ++ '\n' :: more).head? := by
    refine (spelled_append ..).2 ⟨spelled_leadAtoms hr hn ?_, (spelled_append ..).2 ⟨?_, ?_⟩⟩
    · exact not_isIdentPart_firstChar (by decide) _ _
    · exact (phrase_signature_of_proper hs).spelled _ (by show (some ' ').all _ = true; decide)
    · exact ⟨.inl rfl, readsBefore_of_isLoose (isLoose_bracket .brace).1 _, trivial⟩
  rw [funcAtoms, blockAtoms, ← List.append_assoc, ← List.append_assoc,
    List.append_assoc (leadAtoms receiver name), spelledAt_append]
  exact ⟨hhead.spelledAt, hclose⟩

/-- The braces around a body, and the body between them. -/
theorem run_block_place (heof : ∀ k ∈ kinds body, k ≠ .eof)
    (hbalanced : depthAfter 0 (kinds body) = some 0) (offset line : Nat) (rest : List Token) :
    block.run (place offset line (blockAtoms body) ++ rest) = .ok (.ofAtoms body, rest) := by
  obtain ⟨line₁, h₁⟩ := place_append offset line [.blank ' ', .token (.opening .brace)]
    (body ++ [.token (.closing .brace)])
  rw [blockAtoms, h₁, List.append_assoc]
  generalize offset + (atomsText [.blank ' ', .token (.opening .brace)]).length = offset₁
  obtain ⟨line₂, h₂⟩ := place_append offset₁ line₁ body [.token (.closing .brace)]
  rw [h₂, List.append_assoc]
  refine run_block (t := ⟨.opening .brace, ⟨offset + 1, offset + 1 + 1, line⟩⟩) rfl ?_
  exact @bodyLines_place ⟨offset + 1, offset + 1 + 1, line⟩ none _
    ⟨.closing .brace, ⟨offset₁ + (atomsText body).length,
      offset₁ + (atomsText body).length + 1, line₂⟩⟩
    rest _ none offset₁ line₁ trivial hbalanced heof rfl

/-- The parser for declarations reads a function with its body as atoms. -/
theorem run_topLevel_funcAtoms (hr : ∀ r ∈ receiver, ReceiverOk r)
    (hs : (Shape.function sig).Proper) (hread : (Shape.function sig).Readable)
    (heof : ∀ k ∈ kinds body, k ≠ .eof) (hbalanced : depthAfter 0 (kinds body) = some 0)
    (offset line : Nat) (rest : List Token) :
    topLevel.run (place offset line (funcAtoms receiver name sig body) ++ rest) =
      .ok ([.func ⟨receiver.map ParamOf.reread, name, sig.reread, .ofAtoms body⟩], rest) := by
  obtain ⟨line₁, h₁⟩ := place_append offset line (leadAtoms receiver name)
    (sig.atoms ++ blockAtoms body)
  rw [funcAtoms, h₁, List.append_assoc, run_topLevel_func hr (map_kind_place ..)]
  generalize offset + (atomsText (leadAtoms receiver name)).length = offset₁
  obtain ⟨line₂, h₂⟩ := place_append offset₁ line₁ sig.atoms (blockAtoms body)
  rw [h₂, List.append_assoc]
  obtain ⟨_, rfl, hsig⟩ := reads_signature hs hread (place offset₁ line₁ sig.atoms)
    (place (offset₁ + (atomsText sig.atoms).length) line₂ (blockAtoms body) ++ rest)
    (map_kind_place ..) ⟨rfl, show Kind.opening .brace ≠ .dot by simp⟩
  rw [funcRest, StateT.run_bind, hsig, ok_bind, StateT.run_bind, run_block_place heof hbalanced]
  rfl

end Written

/-- **A written function is read as such.** -/
theorem writes_func {receiver : Option Param} {name : String} {sig : Signature} {body : List Atom}
    {text : String} (hr : ∀ r ∈ receiver, ReceiverOk r) (hn : IsName name)
    (hs : (Shape.function sig).Proper) (hread : (Shape.function sig).Readable)
    (htext : atomsText body = text.toList) (hspelled : ∀ more, SpelledAt body ('\x7d' :: more))
    (heof : ∀ k ∈ kinds body, k ≠ .eof) (hbalanced : depthAfter 0 (kinds body) = some 0) :
    Writes (headText receiver name sig ++ " \x7b" ++ text ++ "\x7d")
      (.func ⟨receiver.map ParamOf.reread, name, sig.reread, .ofAtoms body⟩) := by
  refine ⟨funcAtoms receiver name sig body, ?_, spelledAt_funcAtoms hr hn hs hspelled,
    startsDecl_leadAtoms _, fun offset line rest _ ↦
      run_topLevel_funcAtoms hr hs hread heof hbalanced offset line rest⟩
  simp [funcAtoms, blockAtoms, atomsText_leadAtoms, headText, htext, Kind.text]

/-- A settled signature is read as itself. -/
theorem SignatureOf.reread_of_isSettled {sig : Signature} (h : (Shape.function sig).IsSettled) :
    sig.reread = sig := by
  have hfunction := Shape.reread_of_isSettled h
  rw [Shape.reread_function] at hfunction
  exact Shape.function.inj hfunction

/-- **The printed form of a function with a legible body is read as the function**, its body
tuned. -/
theorem writes_text_tuned {f : FuncDecl} (hr : ∀ r ∈ f.receiver, ReceiverOk r ∧ r.reread = r)
    (hn : IsName f.name) (hs : (Shape.function f.signature).IsSettled) (hb : f.body.Legible) :
    Writes f.text (.func { f with body := f.body.tuned }) := by
  obtain ⟨receiver, name, sig, body⟩ := f
  obtain ⟨as, hatoms, hspelled, hkinds, hsplit⟩ := hb.exists_atoms_text
  have htext : atomsText (.token .newline :: as) = ("\n" ++ body.text).toList := by
    simp [hatoms, Kind.text]
  have hfilter : (kinds (.token .newline :: as)).filter (· ≠ .newline) =
      body.lines.flatten.map BodyToken.kind := by
    rw [kinds_token, List.filter_cons_of_neg (by simp), hkinds]
  have hwrites := writes_func (fun r hmem ↦ (hr r hmem).1) hn hs.1.proper hs.2.1 htext
    (fun more ↦ ⟨readsBefore_newline _ _ rfl, hspelled _⟩) (fun k hk ↦ ?_) ?_
  · have hreceiver : receiver.map ParamOf.reread = receiver := by
      cases receiver with
      | none => rfl
      | some r => exact congrArg some (hr r rfl).2
    have hbody : Block.ofAtoms (.token .newline :: as) = body.tuned := by
      rw [Block.ofAtoms, splitLines_newline, hsplit]
      exact hb.settled_tuned
    rw [hreceiver, SignatureOf.reread_of_isSettled hs, hbody] at hwrites
    have hprinted : headText receiver name sig ++ " \x7b" ++ ("\n" ++ body.text) ++ "\x7d" =
        FuncDecl.text ⟨receiver, name, sig, body⟩ := by
      simp [headText, FuncDecl.text, ← String.toList_inj]
    rwa [hprinted] at hwrites
  · -- the tokens other than line breaks are those of the body
    rintro rfl
    have hmem : Kind.eof ∈ body.lines.flatten.map BodyToken.kind := by
      rw [← hfilter]
      exact List.mem_filter.2 ⟨hk, rfl⟩
    obtain ⟨t, ht, heq⟩ := List.mem_map.1 hmem
    obtain ⟨line, hline, ht⟩ := List.mem_flatten.1 ht
    exact ((hb.lines line hline).plain t ht).2 heq
  · rw [← depthAfter_filter, hfilter]
    exact hb.balanced

/-- The printed form of a function with a sound body is read as the function itself. -/
theorem writes_text_func {f : FuncDecl} (hr : ∀ r ∈ f.receiver, ReceiverOk r ∧ r.reread = r)
    (hn : IsName f.name) (hs : (Shape.function f.signature).IsSettled) (hb : f.body.Sound) :
    Writes f.text (.func f) := by
  have hwrites := writes_text_tuned hr hn hs hb.legible
  rwa [hb.tuned_eq] at hwrites

/-! ### Heads that are not read -/

namespace Parser

/-- No type starts with a character that starts no token. -/
theorem run_shape_unknown {ts : List Token} {c : Char} (h : (first ts).kind = .unknown c) :
    ∃ e, shape.run ts = .error e := by
  rw [run_shape]
  simp [shapeWithin, h]

/-- A parameter with a broken name is not read. -/
theorem fails_paramEntry_broken :
    Fails (paramEntry shape) [.ident "i", .unknown Text.combiningDot] := by
  intro ts rest hts
  obtain ⟨t, ts, rfl, ht, hts⟩ := List.map_eq_cons_iff.1 hts
  obtain ⟨u, rfl, hu⟩ := List.map_eq_singleton_iff.1 hts
  obtain ⟨e, he⟩ := @run_shape_unknown (u :: rest) _ hu
  refine ⟨e, ?_⟩
  simp [paramEntry, run_accept, ht, hu, he]

end Parser

/-- The atoms of a parameter whose name may be broken, as an item of a list. -/
structure ParamAtoms (p : Param) (xs : List Atom) : Prop where
  text : atomsText xs = p.text.toList
  phrase : Phrase xs
  starts : ∃ k ks, kinds xs = k :: ks ∧ StartsItem k
  /-- The parser for entries knows what to do with them. -/
  reads_or_stuck : Reads (paramEntry shape) (kinds xs) EndsItem (fun _ ↦ True) ∨
    Stuck (paramEntry shape) (kinds xs)
  /-- A broken name leaves it stuck. -/
  stuck : ∀ n ∈ p.name, ¬ IsName n → Stuck (paramEntry shape) (kinds xs)

/-- A parameter whose name is an identifier has the atoms that it is written with. -/
theorem paramAtoms_of_isName {p : Param} (hname : ∀ n ∈ p.name, IsName n)
    (hs : p.shape.Proper) : ParamAtoms p p.atoms where
  text := p.atomsText_atoms
  phrase := phrase_param hname (Shape.phrase_atoms hs)
  starts := startsItem_param p
  reads_or_stuck := reads_or_stuck_paramEntry (reads_shape hs) (stuck_shape hs)
  stuck n hn hnot := absurd (hname n hn) hnot

/-- A parameter with a broken name has atoms, which leave the parser for entries stuck. -/
theorem exists_paramAtoms_of_isBroken {n : String} (hn : IsBroken n) {s : Shape} (v : Bool)
    (hs : s.Proper) : ∃ xs, ParamAtoms ⟨some n, s, v⟩ xs := by
  obtain ⟨as, hast, has⟩ := hn.exists_atoms
  let typeAtoms : List Atom := (if v then [.token .ellipsis] else []) ++ s.atoms
  have htype : Phrase typeAtoms := by
    cases v with
    | false => exact Shape.phrase_atoms hs
    | true => exact (Shape.phrase_atoms hs).cons_loose (k := .ellipsis) (by decide) rfl
  have hfails : Fails (paramEntry shape) (kinds (.token (.ident "i") ::
      .token (.unknown Text.combiningDot) :: (as ++ .blank ' ' :: typeAtoms))) :=
    fails_paramEntry_broken.append (kinds (as ++ .blank ' ' :: typeAtoms))
  refine ⟨_, ?_, has.phrase.append htype.blank fun _ _ ↦ by rw [firstChar_blank]; decide,
    ⟨_, _, rfl, by simp, by simp⟩, .inr hfails.stuck, fun _ _ _ ↦ hfails.stuck⟩
  rw [atomsText_append, hast]
  cases v <;> simp [typeAtoms, ParamOf.text, Kind.text]

theorem exists_paramAtoms {p : Param} (hname : ∃ n, p.name = some n ∧ IsLabel n)
    (hs : p.shape.Proper) : ∃ xs, ParamAtoms p xs := by
  obtain ⟨name, s, v⟩ := p
  obtain ⟨n, rfl, hn | hn⟩ := hname
  · exact ⟨_, paramAtoms_of_isName (fun m hm ↦ Option.mem_some_iff.1 hm ▸ hn) hs⟩
  · exact exists_paramAtoms_of_isBroken hn v hs

/-- The parameter list of a signature with a broken name is not read. -/
theorem SignatureOf.Drafted.exists_atoms_of_broken {sig : Signature} (h : sig.Drafted)
    (hbroken : ¬ ∀ p ∈ sig.params, ∀ n ∈ p.name, IsName n) :
    ∃ as, atomsText as = (paramListText sig.params).toList ∧ (∀ next, Spelled as next) ∧
      (∃ bs, as = .token (.opening .paren) :: bs) ∧ Fails signature (kinds as) := by
  have hchoice : ∀ p ∈ sig.params, ∃ xs, ParamAtoms p xs := fun p hp ↦
    exists_paramAtoms (h.params p hp) (h.shapes p (List.mem_append_left _ hp))
  choose! atoms hatoms using hchoice
  have hphrase : Phrase (commaAtoms (sig.params.map atoms)) := by
    refine phrase_commaAtoms fun xs hxs ↦ ?_
    obtain ⟨p, hp, rfl⟩ := List.mem_map.1 hxs
    exact (hatoms p hp).phrase
  refine ⟨.token (.opening .paren) ::
    (commaAtoms (sig.params.map atoms) ++ [.token (.closing .paren)]), ?_, fun next ↦ ?_, ⟨_, rfl⟩,
    ?_⟩
  · have hmap : (sig.params.map atoms).map atomsText = sig.params.map fun p ↦ p.text.toList := by
      rw [List.map_map]
      exact List.map_congr_left fun p hp ↦ (hatoms p hp).text
    simp [atomsText_commaAtoms, hmap, paramListText, commaSeparated, Kind.text, Function.comp_def]
  · obtain ⟨-, hspelled⟩ := (hphrase.bracketed .paren phrase_nil).spelled (some ' ') (by decide)
    obtain ⟨hlist, -⟩ := (spelled_append ..).1 hspelled
    exact ⟨readsBefore_of_isLoose (isLoose_bracket .paren).1 _, (spelled_append ..).2
      ⟨hlist, readsBefore_of_isLoose (isLoose_bracket .paren).2 _, trivial⟩⟩
  · have hstuck : ∃ p ∈ sig.params, Stuck (paramEntry shape) (kinds (atoms p)) := by
      simp only [not_forall] at hbroken
      obtain ⟨p, hp, n, hn, hnot⟩ := hbroken
      exact ⟨p, hp, (hatoms p hp).stuck n hn hnot⟩
    rw [kinds_token, kinds_append, kinds_commaAtoms, List.map_map]
    exact fails_signatureOf (fails_paramList (fun p hp ↦ (hatoms p hp).reads_or_stuck)
      (fun p hp ↦ (hatoms p hp).starts) hstuck)

/-- A signature that is not writable leaves the parser for signatures stuck. -/
theorem SignatureOf.Drafted.exists_stuck {sig : Signature} (h : sig.Drafted)
    (hw : ¬ sig.Writable) :
    ∃ as more, sig.text.toList = atomsText as ++ more ∧
      (∀ next : Option Char, next.all (· ∈ terminators) = true →
        Spelled as (more.head?.or next)) ∧
      (∃ bs, as = .token (.opening .paren) :: bs) ∧ Stuck signature (kinds as) := by
  by_cases hnames : ∀ p ∈ sig.params, ∀ n ∈ p.name, IsName n
  · have hr : ¬ (Shape.function sig).Readable := fun hr ↦ hw ⟨hnames, hr⟩
    have hproper := h.proper hnames
    refine ⟨sig.atoms, [], by simp, (phrase_signature_of_proper hproper).spelled,
      ⟨_, rfl⟩, ?_⟩
    obtain ⟨ps, rs⟩ := sig
    obtain ⟨⟨hps, -, -⟩, -⟩ := Shape.everywhere_function.1 hproper
    exact stuck_signatureOf_of_not_readable hps (fun p hp ↦ reads_shape (h.shapes p hp))
      (fun p hp ↦ stuck_shape (h.shapes p hp)) hr
  · obtain ⟨as, htext, hspelled, hstart, hfails⟩ := h.exists_atoms_of_broken hnames
    refine ⟨as, (resultListText sig.results).toList, ?_, fun next _ ↦ hspelled _, hstart,
      hfails.stuck⟩
    rw [htext, SignatureOf.text, String.toList_append]

/-- **A function whose signature is not writable is not read**, whatever its body is. -/
theorem read_of_not_writable {receiver : Option Param} {name : String} {sig : Signature}
    {rest : String} (hr : ∀ r ∈ receiver, ReceiverOk r) (hn : IsName name) (hs : sig.Drafted)
    (hw : ¬ sig.Writable) (hrest : rest.toList.head? = some ' ') :
    ∃ e, Decl.read (headText receiver name sig ++ rest) = .error (.error
      (.unreadableOutput .declaration (headText receiver name sig ++ rest) e)) := by
  obtain ⟨as, more, htext, hspelled, ⟨bs, hbs⟩, hstuck⟩ := hs.exists_stuck hw
  refine @read_of_stuck _ (leadAtoms receiver name ++ as) (more ++ rest.toList) ?_ ?_
    (startsDecl_leadAtoms as) ?_
  · simp [headText, atomsText_leadAtoms, htext]
  · have hnext : ((more ++ rest.toList) ++ ['\n']).head? = more.head?.or (some ' ') := by
      rw [List.head?_append, List.head?_append, hrest]
      cases more.head? <;> rfl
    rw [hnext]
    refine (spelled_append ..).2 ⟨spelled_leadAtoms hr hn ?_, hspelled _ (by decide)⟩
    rw [hbs]
    exact not_isIdentPart_firstChar (by decide) _ _
  · rw [kinds_append]
    intro ts rest' hts
    obtain ⟨ts₁, ts₂, rfl, hts₁, hts₂⟩ := List.map_eq_append_iff.1 hts
    rw [List.append_assoc, run_topLevel_func hr hts₁]
    have hfails : Fails (funcRest (receiver.map ParamOf.reread) name) (kinds as) :=
      hstuck.bind_fails fun sig ts hts ↦ by simp [block, run_expect, hts]
    exact .inl (hfails ts₂ rest' hts₂)

end GoDecorator
