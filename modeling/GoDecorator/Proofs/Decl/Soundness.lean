import GoDecorator.Proofs.Decl.Legibility
import GoDecorator.Proofs.Expr.Soundness

/-!
# Declarations that the parser makes

**Every declaration that the parser makes has names that are identifiers, types that are well-formed
and bodies that are legible** (`ensures_file`). This is what a pattern may assume of its input: the
name of the interface, the names of its methods, and their parameters and results. It is also what
makes it possible to print a declaration and read it again.

## Rules that leave the property open

What the parsers do is said first, by one rule for each of them: what holds of the parts that a
parser reads holds of what it returns, whichever property that is. The rules are used twice, for
well-formed declarations at the end of this module and to follow signatures back to the entries that
they were written as. Each use gives the properties of the smallest parts (names, types,
expressions, bodies), and the rules carry them up to the file.

Bodies are the one part whose property depends on the tokens and not only on what was read of them,
so `ensuresOn_block` hands over the run of the parser for bodies.

## What is left out

Of the value of a variable nothing is claimed here, since no pattern looks at one. What the parser
for expressions makes is said on its own (`makes_expr`); it is used only for the proviso about
tokens that is handed on to the declarations after the value.
-/

namespace GoDecorator

open Token (IsName)

/-! ### Parts of a declaration -/

/-- The types on the right-hand side of a type declaration. A signature counts as the type of a
function. An embedded interface is left out, it has only a name. -/
def TypeExpr.shapes : TypeExpr → List Shape
  | .shape s => [s]
  | .interface body => body.methods.map fun m ↦ .function m.signature
  | .struct fields => fields.map Field.shape

/-- The types and signatures of a declaration. -/
def Decl.shapes : Decl → List Shape
  | .type spec => spec.definition.shapes
  | .func f => .function f.signature :: f.receiver.toList.map ParamOf.shape
  | .var v => v.shape.toList

/-- The interfaces that are embedded in the interface that is declared, if one is. -/
def Decl.embedded : Decl → List Shape
  | .type ⟨_, .interface body⟩ => body.embedded
  | _ => []

/-- The value of the variable that is declared, if one is and has a value. -/
def Decl.value? : Decl → Option Expr
  | .var v => v.value
  | _ => none

/-! ### What is claimed -/

/-- The name of a method is an identifier, and its signature is well-formed. -/
def MethodSpec.WellFormed (m : MethodSpec) : Prop := IsName m.name ∧ m.signature.WellFormed

/-- What the name of an embedded interface stands for. -/
def Shape.IsEmbedded (s : Shape) : Prop :=
  (∃ n, IsName n ∧ s = .ofIdent n) ∨ ∃ q n, IsName q ∧ IsName n ∧ s = .ofQualified q n

/-- The methods of an interface are well-formed, and the interfaces that it embeds have names. -/
structure InterfaceType.WellFormed (body : InterfaceType) : Prop where
  /-- The methods are well-formed. -/
  methods : ∀ m ∈ body.methods, m.WellFormed
  /-- The embedded interfaces have names. -/
  embedded : ∀ s ∈ body.embedded, s.IsEmbedded

/-- The name of a field is an identifier, and its type is well-formed. -/
def Field.WellFormed (f : Field) : Prop := IsName f.name ∧ f.shape.WellFormed

/-- The types and names in a right-hand side are well-formed. -/
def TypeExpr.WellFormed : TypeExpr → Prop
  | .shape s => s.WellFormed
  | .interface body => body.WellFormed
  | .struct fields => ∀ f ∈ fields, f.WellFormed

/-- A type declaration whose name is an identifier and whose right-hand side is well-formed. -/
def TypeSpec.WellFormed (spec : TypeSpec) : Prop := IsName spec.name ∧ spec.definition.WellFormed

/-- A function whose names and types are well-formed and whose body is legible. -/
structure FuncDecl.WellFormed (f : FuncDecl) : Prop where
  /-- The receiver is well-formed. -/
  receiver : ParamsWellFormed f.receiver.toList
  /-- The name is an identifier. -/
  name : IsName f.name
  /-- The parameters and results are well-formed. -/
  signature : f.signature.WellFormed
  /-- The body is legible. -/
  body : f.body.Legible

/-- A variable whose name is an identifier and whose type is well-formed. -/
def VarSpec.WellFormed (v : VarSpec) : Prop := IsName v.name ∧ ∀ s ∈ v.shape, s.WellFormed

/-- A well-formed declaration. -/
def Decl.WellFormed : Decl → Prop
  | .type spec => spec.WellFormed
  | .func f => f.WellFormed
  | .var v => v.WellFormed

namespace Parser

/-! ### Rules -/

section Rules

variable {I : List Token → Prop} [KeptBySuffixes I] {N : String → Prop} {Q : Shape → Prop}
  {S : Signature → Prop}

/-- A body has a property if all lines that are read between braces have it. -/
theorem ensuresOn_block {B : Block → Prop} (h : ∀ opening ts line lines rest, I ts →
    bodyLines opening none 0 ts = .ok (line, lines, rest) → B (.ofLines (line :: lines))) :
    EnsuresOn I block B := by
  refine ensures_here.bind fun o _ ↦ (ensures_expect _).bind fun _ _ ↦ ensures_get.bind fun ts hts ↦
    (@ensures_lift _ _ (fun r ↦ bodyLines o none 0 ts = .ok r) _ fun _ h ↦ h).bind fun r hr ↦ ?_
  refine (ensures_set (KeptBySuffixes.of_suffix (suffix_of_bodyLines hr) hts)).bind fun _ _ ↦
    ensures_pure ?_
  exact h o ts _ _ _ hts hr

/-- A member of an interface is a name with a signature, or the name of another interface. -/
theorem ensuresOn_member {M : Member → Prop} (hnames : NamesOn I N)
    (hsignature : EnsuresOn I signature S)
    (hmethod : ∀ n sig, N n → S sig → M (.method ⟨n, sig⟩))
    (hident : ∀ n, N n → M (.embedded (.ofIdent n)))
    (hqualified : ∀ q n, N q → N n → M (.embedded (.ofQualified q n))) :
    EnsuresOn I member M := by
  refine (ensuresOn_ident hnames).bind fun name hname ↦ (ensures_isNext _).bind fun _ _ ↦
    ensures_ite (fun _ ↦ ?_) fun _ ↦ ?_
  · exact hsignature.bind fun sig hsig ↦ ensures_pure (hmethod name sig hname hsig)
  · refine (ensures_accept _).bind fun _ _ ↦ ensures_ite (fun _ ↦ ?_) fun _ ↦ ?_
    · exact (ensuresOn_ident hnames).bind fun n hn ↦ ensures_pure (hqualified name n hname hn)
    · exact ensures_pure (hident name hname)

/-- An interface consists of its members, sorted into methods and embedded interfaces. -/
theorem forall_interfaceOf {M : Member → Prop} {ms : List Member} (h : ∀ m ∈ ms, M m) :
    (∀ m ∈ (interfaceOf ms).methods, M (.method m)) ∧
      ∀ s ∈ (interfaceOf ms).embedded, M (.embedded s) := by
  refine ⟨fun m hm ↦ ?_, fun s hs ↦ ?_⟩
  · obtain ⟨x, hx, hxm⟩ := List.mem_filterMap.1 hm
    match x, hxm with
    | .method _, rfl => exact h _ hx
  · obtain ⟨x, hx, hxs⟩ := List.mem_filterMap.1 hs
    match x, hxs with
    | .embedded _, rfl => exact h _ hx

theorem ensuresOn_interfaceBody {M : Member → Prop} (h : EnsuresOn I member M) :
    EnsuresOn I interfaceBody fun body ↦
      (∀ m ∈ body.methods, M (.method m)) ∧ ∀ s ∈ body.embedded, M (.embedded s) := by
  refine (@ensures_rounds _ _ M _ ?_).map fun ms hms ↦ forall_interfaceOf hms
  refine ensures_skipSeparators.bind fun _ _ ↦ (ensures_accept _).bind fun _ _ ↦
    ensures_ite (fun _ ↦ ensures_pure trivial) fun _ ↦ ensures_here.bind fun _ _ ↦
      ensures_atEnd.bind fun _ _ ↦ ensures_ite (fun _ ↦ ensures_throw_bind _ _) fun _ ↦ ?_
  refine h.bind fun m hm ↦ ensures_atSeparator.bind fun _ _ ↦
    (ensures_isNext _).bind fun _ _ ↦ ensures_ite (fun _ ↦ ?_) fun _ ↦ ?_
  · exact ensures_pure hm
  · exact ensures_throw_bind _ _

theorem ensuresOn_moreNames (hnames : NamesOn I N) :
    EnsuresOn I moreNames fun names ↦ ∀ n ∈ names, N n := by
  refine ensures_rounds ((ensures_accept _).bind fun _ _ ↦ ensures_ite (fun _ ↦ ?_) fun _ ↦ ?_)
  · exact (ensuresOn_ident hnames).bind fun _ hn ↦ ensures_pure hn
  · exact ensures_pure trivial

/-- Fields that are written with one type share it. -/
theorem ensuresOn_structBody (hnames : NamesOn I N) (hshape : EnsuresOn I shape Q) :
    EnsuresOn I structBody fun fields ↦ ∀ f ∈ fields, N f.name ∧ Q f.shape := by
  refine (@ensures_rounds _ _ (fun fs ↦ ∀ f ∈ fs, N f.name ∧ Q f.shape) _ ?_).map
    fun fss hfss f hf ↦ ?_
  · refine ensures_skipSeparators.bind fun _ _ ↦ (ensures_accept _).bind fun _ _ ↦
      ensures_ite (fun _ ↦ ensures_pure trivial) fun _ ↦ ensures_here.bind fun _ _ ↦
        ensures_atEnd.bind fun _ _ ↦ ensures_ite (fun _ ↦ ensures_throw_bind _ _) fun _ ↦ ?_
    refine (ensuresOn_ident hnames).bind fun name hname ↦
      (ensuresOn_moreNames hnames).bind fun names hmore ↦ ensures_atSeparator.bind fun _ _ ↦
        (ensures_isNext _).bind fun _ _ ↦ (ensures_isNext _).bind fun _ _ ↦
          ensures_ite (fun _ ↦ ensures_throw_bind _ _) fun _ ↦ ?_
    refine hshape.bind fun s hs ↦ ensures_pure fun f hf ↦ ?_
    obtain ⟨n, hn, rfl⟩ := List.mem_map.1 hf
    exact ⟨List.forall_mem_cons.2 ⟨hname, hmore⟩ n hn, hs⟩
  · obtain ⟨fs, hfs, hf⟩ := List.mem_flatten.1 hf
    exact hfss fs hfs f hf

/-- The right-hand side of a declaration is an interface, a struct or another type. -/
theorem ensuresOn_typeExpr {T : TypeExpr → Prop}
    (hshape : EnsuresOn I shape fun s ↦ T (.shape s))
    (hinterface : EnsuresOn I interfaceBody fun body ↦ T (.interface body))
    (hstruct : EnsuresOn I structBody fun fields ↦ T (.struct fields)) :
    EnsuresOn I typeExpr T := by
  refine ensures_kind.bind fun _ _ ↦ ?_
  split
  · exact ensures_skip.bind fun _ _ ↦ (ensures_expect _).bind fun _ _ ↦
      hinterface.bind fun _ hbody ↦ ensures_pure hbody
  · exact ensures_skip.bind fun _ _ ↦ (ensures_expect _).bind fun _ _ ↦
      hstruct.bind fun _ hfields ↦ ensures_pure hfields
  · exact hshape.bind fun _ hs ↦ ensures_pure hs

theorem ensuresOn_typeSpec {T : TypeExpr → Prop} (hnames : NamesOn I N)
    (h : EnsuresOn I typeExpr T) :
    EnsuresOn I typeSpec fun spec ↦ N spec.name ∧ T spec.definition := by
  refine (ensuresOn_ident hnames).bind fun name hname ↦ ?_
  have hrest : EnsuresOn I (do
      let _ ← accept .assign
      return TypeSpec.mk name (← typeExpr)) fun spec ↦ N spec.name ∧ T spec.definition :=
    (ensures_accept _).bind fun _ _ ↦ h.bind fun _ hdef ↦ ensures_pure ⟨hname, hdef⟩
  refine (ensures_isNext _).bind fun _ _ ↦ ensures_ite (fun _ ↦ ?_) fun _ ↦ hrest
  refine ensures_secondKind?.bind fun _ _ ↦ ensures_ite (fun _ ↦ hrest) fun _ ↦ ?_
  exact ensures_here.bind fun _ _ ↦ ensures_throw_bind _ _

/-- What holds of a type declaration holds of each one in a group. -/
theorem ensuresOn_typeGroup {T : TypeSpec → Prop} (h : EnsuresOn I typeSpec T) :
    EnsuresOn I typeGroup fun specs ↦ ∀ spec ∈ specs, T spec := by
  refine ensures_rounds ?_
  refine ensures_skipSeparators.bind fun _ _ ↦ (ensures_accept _).bind fun _ _ ↦
    ensures_ite (fun _ ↦ ensures_pure trivial) fun _ ↦ ?_
  refine h.bind fun spec hspec ↦ ensures_atSeparator.bind fun _ _ ↦
    (ensures_isNext _).bind fun _ _ ↦ ensures_ite (fun _ ↦ ?_) fun _ ↦ ?_
  · exact ensures_pure hspec
  · exact (@ensures_unexpected _ _ (fun _ ↦ True) _).bind fun _ _ ↦ ensures_pure hspec

theorem ensuresOn_typeDecl {T : TypeSpec → Prop} (h : EnsuresOn I typeSpec T) :
    EnsuresOn I typeDecl fun specs ↦ ∀ spec ∈ specs, T spec := by
  refine (ensures_expect _).bind fun _ _ ↦ (ensures_accept _).bind fun _ _ ↦
    ensures_ite (fun _ ↦ ensuresOn_typeGroup h) fun _ ↦ ?_
  exact h.bind fun _ hspec ↦ ensures_pure (List.forall_mem_singleton.2 hspec)

theorem ensures_importDecl : EnsuresOn I importDecl fun _ ↦ True := by
  refine (ensures_expect _).bind fun _ _ ↦ (ensures_accept _).bind fun _ _ ↦
    ensures_ite (fun _ ↦ ?_) fun _ ↦ ?_
  · refine (ensures_modify fun _ ↦ List.dropWhile_suffix _).bind fun _ _ ↦
      (ensures_accept _).bind fun _ _ ↦ ensures_ite (fun _ ↦ ?_) fun _ ↦ ?_
    · exact ensures_pure trivial
    · exact ensures_here.bind fun _ _ ↦ ensures_throw _
  · refine ensures_kind.bind fun _ _ ↦ ?_
    split
    · refine ensures_skip.bind fun _ _ ↦ ensures_kind.bind fun _ _ ↦ ?_
      split
      · exact ensures_skip
      · exact ensures_unexpected _
    · refine ensures_kind.bind fun _ _ ↦ ?_
      split
      · exact ensures_skip
      · exact ensures_unexpected _

/-- A receiver is written as a list of parameters, or not at all. -/
theorem ensuresOn_receiver {R : List Param → Prop} (h : EnsuresOn I (paramList shape) R)
    (hnone : R []) : EnsuresOn I receiver fun r ↦ R r.toList := by
  refine ensures_here.bind fun _ _ ↦ (ensures_accept _).bind fun _ _ ↦
    ensures_ite (fun _ ↦ ?_) fun _ ↦ ensures_pure hnone
  refine h.bind fun rs hrs ↦ ?_
  split
  · exact ensures_pure hrs
  · exact ensures_throw _

/-- The parts of a function are read one after the other. -/
theorem ensuresOn_funcDecl {R : Option Param → Prop} {B : Block → Prop} (hnames : NamesOn I N)
    (hreceiver : EnsuresOn I receiver R) (hsignature : EnsuresOn I signature S)
    (hblock : EnsuresOn I block B) :
    EnsuresOn I funcDecl fun f ↦ R f.receiver ∧ N f.name ∧ S f.signature ∧ B f.body :=
  (ensures_expect _).bind fun _ _ ↦ hreceiver.bind fun _ hr ↦
    (ensuresOn_ident hnames).bind fun _ hname ↦ hsignature.bind fun _ hsig ↦
      hblock.bind fun _ hbody ↦ ensures_pure ⟨hr, hname, hsig, hbody⟩

/-- A variable has a name, and it may have a type and a value. -/
theorem ensuresOn_varSpec {X : Expr → Prop} (hnames : NamesOn I N) (hshape : EnsuresOn I shape Q)
    (hexpr : EnsuresOn I expr X) : EnsuresOn I varSpec fun v ↦
      N v.name ∧ (∀ s ∈ v.shape, Q s) ∧ ∀ e ∈ v.value, X e := by
  refine (ensures_expect _).bind fun _ _ ↦ (ensuresOn_ident hnames).bind fun name hname ↦
    (ensures_isNext _).bind fun _ _ ↦ ensures_atSeparator.bind fun _ _ ↦ ?_
  have hrest (s : Option Shape) (hs : ∀ t ∈ s, Q t) : EnsuresOn I (do
      if ← accept .assign then return VarSpec.mk name s (some (← expr))
      else return VarSpec.mk name s none) fun v ↦
        N v.name ∧ (∀ s ∈ v.shape, Q s) ∧ ∀ e ∈ v.value, X e := by
    refine (ensures_accept _).bind fun _ _ ↦ ensures_ite (fun _ ↦ ?_) fun _ ↦ ?_
    · exact hexpr.bind fun e he ↦ ensures_pure ⟨hname, hs, by simpa using he⟩
    · exact ensures_pure ⟨hname, hs, by simp⟩
  refine ensures_ite (fun _ ↦ ?_) fun _ ↦ ?_
  · exact (@ensures_pure _ _ (fun s ↦ ∀ t ∈ s, Q t) none (by simp)).bind hrest
  · have hsome : EnsuresOn I (some <$> shape) fun s ↦ ∀ t ∈ s, Q t :=
      hshape.map fun s hs ↦ by simpa using hs
    exact hsome.bind hrest

/-- A declaration is of a type, of a function or of a variable; an import leaves nothing. -/
theorem ensuresOn_topLevel {D : Decl → Prop}
    (htype : EnsuresOn I typeSpec fun spec ↦ D (.type spec))
    (hfunc : EnsuresOn I funcDecl fun f ↦ D (.func f))
    (hvar : EnsuresOn I varSpec fun v ↦ D (.var v)) :
    EnsuresOn I topLevel fun ds ↦ ∀ d ∈ ds, D d := by
  refine ensures_kind.bind fun _ _ ↦ ?_
  split
  · exact ensures_importDecl.bind fun _ _ ↦ ensures_pure (by simp)
  · exact (ensuresOn_typeDecl htype).bind fun specs hspecs ↦
      ensures_pure (List.forall_mem_map.2 hspecs)
  · exact hfunc.bind fun f hf ↦ ensures_pure (List.forall_mem_singleton.2 hf)
  · exact hvar.bind fun v hv ↦ ensures_pure (List.forall_mem_singleton.2 hv)
  · exact ensures_unexpected _

/-- What holds of every declaration that is read holds of all declarations of a file. -/
theorem ensuresOn_file {D : Decl → Prop} (h : EnsuresOn I topLevel fun ds ↦ ∀ d ∈ ds, D d) :
    EnsuresOn I file fun f ↦ ∀ d ∈ f.decls, D d := by
  refine ensures_skipSeparators.bind fun _ _ ↦ (ensures_expect _).bind fun _ _ ↦
    (ensuresOn_ident namesOn_true).bind fun _ _ ↦
      (@ensures_rounds _ _ (fun ds ↦ ∀ d ∈ ds, D d) _ ?_).bind fun dss hdss ↦
        ensures_pure fun d hd ↦ ?_
  · refine ensures_skipSeparators.bind fun _ _ ↦ ensures_atEnd.bind fun _ _ ↦
      ensures_ite (fun _ ↦ ensures_pure trivial) fun _ ↦ ?_
    refine h.bind fun ds hds ↦ ensures_atSeparator.bind fun _ _ ↦
      ensures_ite (fun _ ↦ ensures_pure hds) fun _ ↦ ?_
    exact (@ensures_unexpected _ _ (fun _ ↦ True) _).bind fun _ _ ↦ ensures_pure hds
  · obtain ⟨ds, hds, hd⟩ := List.mem_flatten.1 hd
    exact hdss ds hds d hd

end Rules

/-! ### Well-formed declarations -/

/-- **The body of a function is legible.** -/
theorem ensures_block : Ensures block Block.Legible :=
  ensuresOn_block fun _ _ _ _ _ hts h ↦ Block.legible_ofLines hts h

/-- A well-formed method, or an embedded interface with a name. -/
def Member.WellFormed : Member → Prop
  | .method m => m.WellFormed
  | .embedded s => s.IsEmbedded

theorem ensures_member : Ensures member Member.WellFormed :=
  ensuresOn_member namesOn_scanned ensures_signature (fun _ _ hn hsig ↦ ⟨hn, hsig⟩)
    (fun n hn ↦ .inl ⟨n, hn, rfl⟩) fun q n hq hn ↦ .inr ⟨q, n, hq, hn, rfl⟩

theorem ensures_typeSpec : Ensures typeSpec TypeSpec.WellFormed :=
  ensuresOn_typeSpec namesOn_scanned <| ensuresOn_typeExpr ensures_shape
    ((ensuresOn_interfaceBody ensures_member).mono fun _ h ↦ ⟨h.1, h.2⟩)
    (ensuresOn_structBody namesOn_scanned ensures_shape)

theorem ensures_funcDecl : Ensures funcDecl FuncDecl.WellFormed :=
  (ensuresOn_funcDecl namesOn_scanned
    (ensuresOn_receiver (ensures_paramList ensures_shape) paramsWellFormed_nil)
    ensures_signature ensures_block).mono fun _ h ↦ ⟨h.1, h.2.1, h.2.2.1, h.2.2.2⟩

theorem ensures_varSpec : Ensures varSpec VarSpec.WellFormed :=
  (ensuresOn_varSpec namesOn_scanned ensures_shape makes_expr.ensures).mono fun _ h ↦
    ⟨h.1, h.2.1⟩

/-- **The declarations of a file are well-formed.** -/
theorem ensures_file : Ensures file fun f ↦ ∀ d ∈ f.decls, d.WellFormed :=
  ensuresOn_file (ensuresOn_topLevel ensures_typeSpec ensures_funcDecl ensures_varSpec)

end Parser

end GoDecorator
