import GoDecorator.Descriptor.Checks
import GoDecorator.Proofs.Descriptor.Preparing

/-!
# Qualification

Generated code stands outside the package of the interface that it wraps, so the types of the
interface are written with the package in front of them. Patterns decide on the types as they were
read, and then write the qualified ones. This is sound because **qualification changes the names of
types and nothing that a decision depends on**:

* `QualifiedBy` says which type is meant by a qualified one, node by node, and `qualifiedBy_iff`
  that `Shape.qualify` gives this type and no other;
* after it no name is left that qualification would change (`everywhere_isAnchored_qualify`), so
  that a second one, with whatever package, does nothing (`qualify_qualify`);
* `Shape.ServesAs` and `Method.ServesAs` collect what is asked about a type and about a method. They
  hold between a type or a method and its qualified form, and between a method and the one with new
  names for its parameters.
-/

namespace GoDecorator

/-! ### Types -/

namespace Shape

variable {package : String}

mutual

/-- **The second type is the first one as it is seen from outside the package.** An exported name
without a package has got one, and everything else is the same. -/
inductive QualifiedBy (package : String) : Shape → Shape → Prop
  | exported {n : String} (h : isExported n = true) :
    QualifiedBy package (.named none n) (.named (some package) n)
  | unexported {n : String} (h : isExported n = false) :
    QualifiedBy package (.named none n) (.named none n)
  | foreign (q n : String) : QualifiedBy package (.named (some q) n) (.named (some q) n)
  | primitive (p : Primitive) : QualifiedBy package (.primitive p) (.primitive p)
  | pointer {s t : Shape} (h : QualifiedBy package s t) :
    QualifiedBy package (.pointer s) (.pointer t)
  | slice {s t : Shape} (h : QualifiedBy package s t) : QualifiedBy package (.slice s) (.slice t)
  | map {k k' v v' : Shape} (hk : QualifiedBy package k k') (hv : QualifiedBy package v v') :
    QualifiedBy package (.map k v) (.map k' v')
  | channel (d : Direction) {s t : Shape} (h : QualifiedBy package s t) :
    QualifiedBy package (.channel d s) (.channel d t)
  | function {ps ps' rs rs' : List (ParamOf Shape)} (hps : ParamsQualifiedBy package ps ps')
    (hrs : ParamsQualifiedBy package rs rs') :
    QualifiedBy package (.function ⟨ps, rs⟩) (.function ⟨ps', rs'⟩)
  | context : QualifiedBy package .context .context
  | any : QualifiedBy package .any .any
  | emptyStruct : QualifiedBy package .emptyStruct .emptyStruct

/-- The same of the types of parameters, which keep their names and their dots. -/
inductive ParamsQualifiedBy (package : String) : List (ParamOf Shape) → List (ParamOf Shape) → Prop
  | nil : ParamsQualifiedBy package [] []
  | cons (name : Option String) {s t : Shape} (variadic : Bool) {ps qs : List (ParamOf Shape)}
    (h : QualifiedBy package s t) (hps : ParamsQualifiedBy package ps qs) :
    ParamsQualifiedBy package (⟨name, s, variadic⟩ :: ps) (⟨name, t, variadic⟩ :: qs)

end

/-- Parameters are qualified one by one. -/
theorem paramsQualifiedBy_qualifyParams {ps : List Param}
    (h : ∀ p ∈ ps, QualifiedBy package p.shape (p.shape.qualify package)) :
    ParamsQualifiedBy package ps (qualifyParams package ps) := by
  induction ps with
  | nil => exact .nil
  | cons p ps ih =>
    obtain ⟨hp, hps⟩ := List.forall_mem_cons.1 h
    exact .cons p.name p.variadic hp (ih hps)

/-- The qualified form that is made is a qualified form. -/
theorem qualifiedBy_qualify (s : Shape) : QualifiedBy package s (s.qualify package) := by
  induction s using Shape.induct with
  | primitive p => exact .primitive p
  | pointer s ih => exact .pointer ih
  | named q n =>
    cases q with
    | some q => exact .foreign q n
    | none =>
      rw [qualify]
      split
      next h => exact .exported h
      next h => exact .unexported (Bool.eq_false_iff.2 h)
  | slice s ih => exact .slice ih
  | map k v ihk ihv => exact .map ihk ihv
  | function ps rs hps hrs =>
    exact .function (paramsQualifiedBy_qualifyParams hps) (paramsQualifiedBy_qualifyParams hrs)
  | context => exact .context
  | any => exact .any
  | channel d s ih => exact .channel d ih
  | emptyStruct => exact .emptyStruct

/-- Parameters have one qualified form if their types do. -/
theorem ParamsQualifiedBy.eq_qualifyParams {ps qs : List Param}
    (ih : ∀ p ∈ ps, ∀ t, QualifiedBy package p.shape t → t = p.shape.qualify package)
    (h : ParamsQualifiedBy package ps qs) : qs = qualifyParams package ps := by
  induction ps generalizing qs with
  | nil =>
    cases h
    rfl
  | cons p ps ihps =>
    obtain ⟨hp, hps⟩ := List.forall_mem_cons.1 ih
    cases h with
    | cons name variadic ht hqs => rw [qualifyParams, hp _ ht, ihps hps hqs]

/-- Every qualified form is the one that is made. -/
theorem QualifiedBy.eq_qualify {s t : Shape} (h : QualifiedBy package s t) :
    t = s.qualify package := by
  induction s using Shape.induct generalizing t with
  | named q n =>
    cases h with
    | exported hn => rw [qualify, if_pos hn]
    | unexported hn => rw [qualify, if_neg (Bool.eq_false_iff.1 hn)]
    | foreign => rfl
  | pointer s ih =>
    cases h with
    | pointer h => rw [qualify, ih h]
  | slice s ih =>
    cases h with
    | slice h => rw [qualify, ih h]
  | map k v ihk ihv =>
    cases h with
    | map hk hv => rw [qualify, ihk hk, ihv hv]
  | channel d s ih =>
    cases h with
    | channel _ h => rw [qualify, ih h]
  | function ps rs ihps ihrs =>
    cases h with
    | function hps hrs =>
      rw [qualify, hps.eq_qualifyParams fun p hp _ ↦ ihps p hp,
        hrs.eq_qualifyParams fun r hr _ ↦ ihrs r hr]
  | primitive p =>
    cases h
    rfl
  | context =>
    cases h
    rfl
  | any =>
    cases h
    rfl
  | emptyStruct =>
    cases h
    rfl

/-- **A type has one qualified form, and it is the one that is made.** -/
theorem qualifiedBy_iff {s t : Shape} : QualifiedBy package s t ↔ t = s.qualify package :=
  ⟨QualifiedBy.eq_qualify, fun h ↦ h ▸ qualifiedBy_qualify s⟩

/-- The type is not an exported name that lacks its package. -/
def IsAnchored : Shape → Prop
  | .named none n => isExported n = false
  | _ => True

/-- **Qualification is complete.** -/
theorem everywhere_isAnchored_qualify (s : Shape) : (s.qualify package).Everywhere IsAnchored := by
  refine everywhere_qualify (fun t _ ↦ ?_) fun t _ ↦ trivial
  cases t with
  | named q n =>
    cases q with
    | some q => trivial
    | none =>
      rw [qualify]
      split
      next => trivial
      next h => exact Bool.eq_false_iff.2 h
  | _ => trivial

theorem qualifyParams_eq_self {ps : List Param} (h : ∀ p ∈ ps, p.shape.qualify package = p.shape) :
    qualifyParams package ps = ps := by
  calc
    qualifyParams package ps = ps.map id := by
      rw [qualifyParams_eq_map]
      exact List.map_congr_left fun p hp ↦ by rw [h p hp, id]
    _ = ps := List.map_id ps

/-- A type where no name lacks its package is its own qualified form. -/
theorem qualify_eq_self {s : Shape} (h : s.Everywhere IsAnchored) : s.qualify package = s := by
  induction s using Shape.induct with
  | named q n =>
    cases q with
    | some q => rfl
    | none => rw [qualify, if_neg (Bool.eq_false_iff.1 (everywhere_named.1 h))]
  | pointer s ih => rw [qualify, ih (everywhere_pointer.1 h).2]
  | slice s ih => rw [qualify, ih (everywhere_slice.1 h).2]
  | map k v ihk ihv =>
    obtain ⟨-, hk, hv⟩ := everywhere_map.1 h
    rw [qualify, ihk hk, ihv hv]
  | channel d s ih => rw [qualify, ih (everywhere_channel.1 h).2]
  | function ps rs ihps ihrs =>
    obtain ⟨-, hps, hrs⟩ := everywhere_function.1 h
    rw [qualify, qualifyParams_eq_self fun p hp ↦ ihps p hp (hps p hp),
      qualifyParams_eq_self fun r hr ↦ ihrs r hr (hrs r hr)]
  | _ => rfl

/-- **Qualification is absorbing**: the first package stays. -/
theorem qualify_qualify (s : Shape) (other : String) :
    (s.qualify package).qualify other = s.qualify package :=
  qualify_eq_self (everywhere_isAnchored_qualify s)

@[simp] theorem isEnumerable_qualify (s : Shape) :
    (s.qualify package).isEnumerable = s.isEnumerable := by
  induction s using Shape.induct with
  | named q n => cases q <;> rfl
  | pointer s ih => exact ih
  | _ => rfl

end Shape

/-- The expression with a qualified type, if it is a composite literal. -/
def Expr.qualifyLiteral (package : String) : Expr → Expr
  | .composite s => .composite (s.qualify package)
  | e => e

/-- The zero value of a qualified type. -/
theorem Shape.zero_qualify (package : String) (s : Shape) :
    (s.qualify package).zero = s.zero.qualifyLiteral package := by
  cases s with
  | primitive p => cases p <;> rfl
  | named q n => cases q <;> rfl
  | _ => rfl

/-- **What is asked about a type has the same answer for both.** -/
structure Shape.ServesAs (s t : Shape) : Prop where
  /-- Their variables have the same name. -/
  variableName : t.variableName = s.variableName
  /-- Both can be filtered, or neither. -/
  isEnumerable : t.isEnumerable = s.isEnumerable
  /-- Both are the type of errors, or neither. -/
  isError : t.isError = s.isError
  /-- Both are the type of contexts, or neither. -/
  isContext : t.isContext = s.isContext

/-- A type and its qualified form serve alike. -/
theorem Shape.servesAs_qualify (package : String) (s : Shape) : s.ServesAs (s.qualify package) where
  variableName := s.variableName_qualify package
  isEnumerable := s.isEnumerable_qualify
  isError := s.isError_qualify
  isContext := s.isContext_qualify

/-! ### Methods -/

namespace Method

variable {m m' : Method}

/-- **What is asked about a method has the same answer for both**, and a check that fails gives the
same message. -/
structure ServesAs (m m' : Method) : Prop where
  /-- Both take a context, or neither. -/
  takesContext : m'.takesContext = m.takesContext
  /-- Both can fail, or neither. -/
  returnsError : m'.returnsError = m.returnsError
  /-- The outcome of the check for an error. -/
  expectError : m'.expectError = m.expectError
  /-- The outcome of the check for nothing but an error. -/
  expectAtMostError : m'.expectAtMostError = m.expectAtMostError
  /-- The outcome of the check for exactly one error. -/
  expectOnlyError : m'.expectOnlyError = m.expectOnlyError
  /-- The outcome of the check for a value and an error. -/
  expectValueAndError : m'.expectValueAndError = m.expectValueAndError

/-- The checks depend on the name, on the number of results and on whether the last one is an
error. -/
theorem servesAs_of_results (hname : m'.name = m.name)
    (hlength : m'.results.length = m.results.length) (herror : m'.returnsError = m.returnsError)
    (hcontext : m'.takesContext = m.takesContext) : m.ServesAs m' where
  takesContext := hcontext
  returnsError := herror
  expectError := by rw [expectError, expectError, herror, hname]
  expectAtMostError := by
    rw [expectAtMostError, expectAtMostError, expectError, expectError, hlength, herror, hname]
  expectOnlyError := by
    rw [expectOnlyError, expectOnlyError, expectError, expectError, hlength, herror, hname]
  expectValueAndError := by
    rw [expectValueAndError, expectValueAndError, expectError, expectError, hlength, herror, hname]

theorem servesAs_qualified (m : Method) (package : String) : m.ServesAs (m.qualified package) :=
  servesAs_of_results rfl (m.length_results_qualified package) (m.returnsError_qualified package)
    (m.takesContext_qualified package)

theorem servesAs_withParamNames (m : Method) (names : Names) :
    m.ServesAs (m.withParamNames names).1 :=
  servesAs_of_results rfl rfl rfl (m.takesContext_withParamNames names)

end Method

/-- **Qualification is complete, absorbing, and invisible to what is decided on types and methods.**
The qualified form of a type is the type with a package for the exported names that have none. No
such name is left, so the first package stays. Every question about a type has the same answer for
the qualified one, whose zero value is the zero value of the type, qualified; and every question
about a method has the same answer when it is qualified and when it gets names for its
parameters. -/
theorem qualification_compatible (package : String) :
    (∀ s t : Shape, s.QualifiedBy package t ↔ t = s.qualify package) ∧
      (∀ s : Shape, (s.qualify package).Everywhere Shape.IsAnchored) ∧
      (∀ (s : Shape) (other : String), (s.qualify package).qualify other = s.qualify package) ∧
      (∀ s : Shape, s.ServesAs (s.qualify package)) ∧
      (∀ s : Shape, (s.qualify package).zero = s.zero.qualifyLiteral package) ∧
      (∀ m : Method, m.ServesAs (m.qualified package)) ∧
      ∀ (m : Method) (names : Names), m.ServesAs (m.withParamNames names).1 :=
  ⟨fun _ _ ↦ Shape.qualifiedBy_iff, Shape.everywhere_isAnchored_qualify,
    fun s other ↦ s.qualify_qualify other, Shape.servesAs_qualify package,
    Shape.zero_qualify package, fun m ↦ m.servesAs_qualified package,
    Method.servesAs_withParamNames⟩

/-- A capital makes a name exported: `User` gets the package, `node` stays, and so does the `User`
of another package. -/
theorem qualification_compatible_user :
    (Shape.function ⟨[⟨some "u", .slice (.named none "User"), true⟩,
        ⟨none, .pointer (.named none "node"), false⟩],
      [⟨none, .named (some "models") "User", false⟩]⟩).qualify "abc" =
    .function ⟨[⟨some "u", .slice (.named (some "abc") "User"), true⟩,
        ⟨none, .pointer (.named none "node"), false⟩],
      [⟨none, .named (some "models") "User", false⟩]⟩ := by
  refine (((qualification_compatible "abc").1 _ _).1 (.function ?_ ?_)).symm
  · exact .cons _ _ (.slice (.exported (by decide))) <|
      .cons _ _ (.pointer (.unexported (by decide))) .nil
  · exact .cons _ _ (.foreign _ _) .nil

end GoDecorator
