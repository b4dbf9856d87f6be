import GoDecorator.Text.Case
import GoDecorator.Text.Description

/-!
# Shapes of types

A shape is what can be read off a type expression: which predeclared type it is, or how it is built
from other types. Named types are not resolved; two of them are kept apart from the rest because
the generator treats them specially, `context.Context` and the empty interface.

Function types make shapes nest through lists of parameters. `Shape.induct` is the induction that
goes through those lists, and `Shape.instDecidableEq` the equality.
-/

namespace GoDecorator

/-! ### Predeclared types -/

/-- The predeclared types. -/
inductive Primitive where
  | bool | string
  | int | int8 | int16 | int32 | int64
  | uint | uint8 | uint16 | uint32 | uint64 | uintptr
  | byte | rune
  | float32 | float64
  | complex64 | complex128
  | error
deriving DecidableEq, Repr

namespace Primitive

/-- Every predeclared type. -/
def all : List Primitive :=
  [bool, string, int, int8, int16, int32, int64, uint, uint8, uint16, uint32, uint64, uintptr,
   byte, rune, float32, float64, complex64, complex128, error]

/-- The name of the type. -/
def text : Primitive → String
  | bool => "bool"
  | string => "string"
  | int => "int"
  | int8 => "int8"
  | int16 => "int16"
  | int32 => "int32"
  | int64 => "int64"
  | uint => "uint"
  | uint8 => "uint8"
  | uint16 => "uint16"
  | uint32 => "uint32"
  | uint64 => "uint64"
  | uintptr => "uintptr"
  | byte => "byte"
  | rune => "rune"
  | float32 => "float32"
  | float64 => "float64"
  | complex64 => "complex64"
  | complex128 => "complex128"
  | error => "error"

/-- The form that messages name: the name of the type with a capital. -/
def form : Primitive → String
  | bool => "Bool"
  | string => "String"
  | int => "Int"
  | int8 => "Int8"
  | int16 => "Int16"
  | int32 => "Int32"
  | int64 => "Int64"
  | uint => "Uint"
  | uint8 => "Uint8"
  | uint16 => "Uint16"
  | uint32 => "Uint32"
  | uint64 => "Uint64"
  | uintptr => "Uintptr"
  | byte => "Byte"
  | rune => "Rune"
  | float32 => "Float32"
  | float64 => "Float64"
  | complex64 => "Complex64"
  | complex128 => "Complex128"
  | error => "Error"

/-- The predeclared type of a name. -/
def ofText? (name : String) : Option Primitive := all.find? fun p ↦ p.text == name

/-- Whether the type is a signed integer type. -/
def isSigned (p : Primitive) : Bool := p ∈ [int, int8, int16, int32, int64, rune]

/-- Whether the type is an unsigned integer type. -/
def isUnsigned (p : Primitive) : Bool :=
  p ∈ [uint, uint8, uint16, uint32, uint64, uintptr, byte]

/-- Whether the type is a floating-point type. -/
def isFloat (p : Primitive) : Bool := p ∈ [float32, float64]

/-- Whether the type is a complex type. -/
def isComplex (p : Primitive) : Bool := p ∈ [complex64, complex128]

@[simp] theorem ofText?_text (p : Primitive) : ofText? p.text = some p := by
  cases p <;> decide

end Primitive

/-! ### Shapes -/

/-- The directions of a channel. -/
inductive Direction where
  /-- A channel that sends and receives. -/
  | both
  /-- A channel to send to. -/
  | send
  /-- A channel to receive from. -/
  | receive
deriving DecidableEq, Repr

/-- The form of a direction that messages name. -/
def Direction.form : Direction → String
  | both => "Both"
  | send => "Send"
  | receive => "Recv"

/-- A parameter or a result, over the type of its shape. -/
structure ParamOf (σ : Type) where
  /-- The name, if it has one. -/
  name : Option String
  /-- The type as written, without the dots of a variadic parameter. -/
  shape : σ
  /-- Whether the parameter takes any number of arguments. -/
  variadic : Bool
deriving DecidableEq, Repr

/-- The parameters and results of a function, over the type of their shapes. -/
structure SignatureOf (σ : Type) where
  /-- The parameters in order. -/
  params : List (ParamOf σ)
  /-- The results in order. -/
  results : List (ParamOf σ)
deriving DecidableEq, Repr

/-- The shape of a type. -/
inductive Shape where
  /-- A predeclared type. -/
  | primitive (prim : Primitive)
  /-- A pointer. -/
  | pointer (target : Shape)
  /-- A type known by its name, with the package it is qualified by, if any. -/
  | named (qualifier : Option String) (name : String)
  /-- A slice. -/
  | slice (elem : Shape)
  /-- A map. -/
  | map (key value : Shape)
  /-- A function type. -/
  | function (signature : SignatureOf Shape)
  /-- The type `context.Context`. -/
  | context
  /-- The empty interface, also known as `any`. -/
  | any
  /-- A channel. -/
  | channel (direction : Direction) (elem : Shape)
  /-- The struct without fields. -/
  | emptyStruct
deriving Repr

/-- A parameter or a result. -/
abbrev Param := ParamOf Shape

/-- The parameters and results of a function. -/
abbrev Signature := SignatureOf Shape

/-- Induction on shapes, with the hypothesis for every parameter and result of a function type. -/
@[elab_as_elim]
theorem Shape.induct {motive : Shape → Prop}
    (primitive : ∀ p, motive (.primitive p)) (pointer : ∀ s, motive s → motive (.pointer s))
    (named : ∀ q n, motive (.named q n)) (slice : ∀ s, motive s → motive (.slice s))
    (map : ∀ k v, motive k → motive v → motive (.map k v))
    (function : ∀ ps rs : List Param, (∀ p ∈ ps, motive p.shape) → (∀ r ∈ rs, motive r.shape) →
      motive (.function ⟨ps, rs⟩))
    (context : motive .context) (any : motive .any)
    (channel : ∀ d s, motive s → motive (.channel d s)) (emptyStruct : motive .emptyStruct)
    (s : Shape) : motive s :=
  @Shape.rec motive
    (fun sig ↦ (∀ p ∈ sig.params, motive p.shape) ∧ ∀ r ∈ sig.results, motive r.shape)
    (fun ps ↦ ∀ p ∈ ps, motive p.shape) (fun p ↦ motive p.shape)
    primitive pointer named slice map (fun sig h ↦ function sig.params sig.results h.1 h.2)
    context any channel emptyStruct (fun _ _ h₁ h₂ ↦ ⟨h₁, h₂⟩) (by simp)
    (fun p ps hp hps q hq ↦ by
      rcases List.mem_cons.1 hq with rfl | hq
      · exact hp
      · exact hps q hq)
    (fun _ _ _ h ↦ h) s

namespace Shape

/-! ### Equality -/

mutual

/-- Whether two shapes are the same. -/
def same : Shape → Shape → Bool
  | .primitive p, .primitive q => p == q
  | .pointer s, .pointer t => same s t
  | .named q n, .named q' n' => q == q' && n == n'
  | .slice s, .slice t => same s t
  | .map k v, .map k' v' => same k k' && same v v'
  | .function ⟨ps, rs⟩, .function ⟨ps', rs'⟩ => sameParams ps ps' && sameParams rs rs'
  | .context, .context => true
  | .any, .any => true
  | .channel d s, .channel d' t => d == d' && same s t
  | .emptyStruct, .emptyStruct => true
  | _, _ => false

/-- Whether two parameter lists are the same. -/
def sameParams : List (ParamOf Shape) → List (ParamOf Shape) → Bool
  | [], [] => true
  | ⟨n, s, v⟩ :: ps, ⟨n', s', v'⟩ :: ps' => n == n' && same s s' && v == v' && sameParams ps ps'
  | _, _ => false

end

theorem sameParams_iff {ps : List Param} (h : ∀ p ∈ ps, ∀ t, same p.shape t = true ↔ p.shape = t)
    (qs : List Param) : sameParams ps qs = true ↔ ps = qs := by
  induction ps generalizing qs with
  | nil => cases qs <;> simp [sameParams]
  | cons p ps ih =>
    obtain ⟨n, s, v⟩ := p
    cases qs with
    | nil => simp [sameParams]
    | cons q qs =>
      obtain ⟨n', s', v'⟩ := q
      simp [sameParams, h ⟨n, s, v⟩ (by simp), ih (fun p hp ↦ h p (by simp [hp])), and_assoc]

/-- `same` decides equality. -/
theorem same_iff (s t : Shape) : same s t = true ↔ s = t := by
  induction s using Shape.induct generalizing t with
  | primitive p => cases t <;> simp [same]
  | pointer s ih => cases t <;> simp [same, ih]
  | named q n => cases t <;> simp [same]
  | slice s ih => cases t <;> simp [same, ih]
  | map k v ihk ihv => cases t <;> simp [same, ihk, ihv]
  | function ps rs hps hrs =>
    cases t with
    | function sig =>
      obtain ⟨ps', rs'⟩ := sig
      simp [same, sameParams_iff hps, sameParams_iff hrs]
    | _ => simp [same]
  | context => cases t <;> simp [same]
  | any => cases t <;> simp [same]
  | channel d s ih => cases t <;> simp [same, ih]
  | emptyStruct => cases t <;> simp [same]

instance instDecidableEq : DecidableEq Shape := fun s t ↦ decidable_of_iff _ (same_iff s t)

/-! ### Reading names -/

/-- The shape of an identifier where a type is expected. -/
def ofIdent (name : String) : Shape :=
  if name = "any" then .any
  else match Primitive.ofText? name with
    | some p => .primitive p
    | none => .named none name

/-- The shape of a qualified identifier. -/
def ofQualified (qualifier name : String) : Shape :=
  if qualifier = "context" ∧ name = "Context" then .context else .named (some qualifier) name

/-! ### Questions -/

/-- Whether the type is `error`. -/
def isError : Shape → Bool
  | .primitive .error => true
  | _ => false

/-- Whether the type is `context.Context`. -/
def isContext : Shape → Bool
  | .context => true
  | _ => false

/-- Whether the type is a collection that can be ranged over and filtered. Pointers are looked
through. -/
def isEnumerable : Shape → Bool
  | .slice _ | .map _ _ => true
  | .pointer s => s.isEnumerable
  | _ => false

/-- The type under every layer of pointers. -/
def stripPointers : Shape → Shape
  | .pointer s => s.stripPointers
  | s => s

/-- The type of the elements of a collection: of its values, for a map. -/
def element? (s : Shape) : Option Shape :=
  match s.stripPointers with
  | .slice elem => some elem
  | .map _ value => some value
  | _ => none

/-! ### Qualified names -/

/-- Whether an identifier is exported: it starts with an upper-case character. -/
def isExported (name : String) : Bool := name.toList.head?.any Text.isUppercase

mutual

/-- The type as another package refers to it: an exported name without a qualifier gets the given
package as its qualifier. -/
def qualify (package : String) : Shape → Shape
  | .primitive p => .primitive p
  | .pointer s => .pointer (qualify package s)
  | .named none name => .named (if isExported name then some package else none) name
  | .named (some q) name => .named (some q) name
  | .slice s => .slice (qualify package s)
  | .map k v => .map (qualify package k) (qualify package v)
  | .function ⟨ps, rs⟩ => .function ⟨qualifyParams package ps, qualifyParams package rs⟩
  | .context => .context
  | .any => .any
  | .channel d s => .channel d (qualify package s)
  | .emptyStruct => .emptyStruct

/-- Qualifies the types of parameters. -/
def qualifyParams (package : String) : List (ParamOf Shape) → List (ParamOf Shape)
  | [] => []
  | ⟨name, s, variadic⟩ :: ps => ⟨name, qualify package s, variadic⟩ :: qualifyParams package ps

end

theorem qualifyParams_eq_map (package : String) (ps : List Param) :
    qualifyParams package ps = ps.map fun p ↦ { p with shape := p.shape.qualify package } := by
  induction ps with
  | nil => rfl
  | cons p ps ih => simp [qualifyParams, ih]

/-! ### Descriptions -/

mutual

/-- The description of a shape in messages. -/
def describe : Shape → String
  | .primitive p => Text.applied "Primitive" p.form
  | .pointer s => Text.applied "Pointer" s.describe
  | .named q n =>
    Text.record "Named"
      [("qualifier", Text.optional (q.map Text.quoted)), ("name", Text.quoted n)]
  | .slice s => Text.applied "Slice" s.describe
  | .map k v => Text.record "Map" [("key", k.describe), ("value", v.describe)]
  | .function ⟨ps, rs⟩ =>
    Text.applied "Function" <| Text.record "FuncShape"
      [("params", Text.listing (describeParams ps)), ("results", Text.listing (describeParams rs))]
  | .context => "Context"
  | .any => "Any"
  | .channel d s => Text.record "Chan" [("dir", d.form), ("elem", s.describe)]
  | .emptyStruct => "EmptyStruct"

/-- The descriptions of parameters. -/
def describeParams : List (ParamOf Shape) → List String
  | [] => []
  | ⟨name, s, variadic⟩ :: ps =>
    Text.record "Param"
      [("name", Text.optional (name.map Text.quoted)), ("shape", s.describe),
       ("variadic", Text.truth variadic)] :: describeParams ps

end

end Shape

namespace ParamOf

/-- A parameter without a name that takes one argument. -/
def unnamed (shape : Shape) : Param := ⟨none, shape, false⟩

/-- The parameter without its name. -/
def withoutName (p : Param) : Param := { p with name := none }

/-- The type of the parameter inside the function, where a variadic one is a slice. -/
def bodyShape (p : Param) : Shape := if p.variadic then .slice p.shape else p.shape

end ParamOf

namespace SignatureOf

/-- The signature as another package refers to it. -/
def qualify (package : String) (sig : Signature) : Signature :=
  ⟨Shape.qualifyParams package sig.params, Shape.qualifyParams package sig.results⟩

/-- The description of a signature in messages. -/
def describe (sig : Signature) : String :=
  Text.record "FuncShape"
    [("params", Text.listing (Shape.describeParams sig.params)),
     ("results", Text.listing (Shape.describeParams sig.results))]

end SignatureOf

end GoDecorator
