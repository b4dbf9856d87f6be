import GoDecorator.Decl.Printer
import GoDecorator.Journal
import GoDecorator.Names

/-!
# What a pattern works on

A pattern is applied to an interface or to a function type, reduced to a name and a list of methods.
A function type counts as one method with the name of the type. A method whose first parameter is a
context passes it on, and one whose last result is an error can fail; the other parameters and
results carry the payload.
-/

namespace GoDecorator

/-! ### Methods -/

/-- A method with its parameters and results. -/
structure Method where
  /-- The name. -/
  name : String
  /-- The parameters in order. -/
  params : List Param
  /-- The results in order. -/
  results : List Param
deriving DecidableEq, Repr

namespace Method

/-- The method with the given name and signature. -/
def ofSignature (name : String) (sig : Signature) : Method := ⟨name, sig.params, sig.results⟩

/-- The parameters and results. -/
def signature (m : Method) : Signature := ⟨m.params, m.results⟩

/-- Whether the last result is an error. -/
def returnsError (m : Method) : Bool := m.results.getLast?.any (·.shape.isError)

/-- Whether the first parameter is a context. -/
def takesContext (m : Method) : Bool := m.params.head?.any (·.shape.isContext)

/-- The name of the context parameter, if there is one and it has a name. -/
def contextName? (m : Method) : Option String :=
  if m.takesContext then m.params.head? >>= (·.name) else none

/-- The parameters other than the context. -/
def payloadParams (m : Method) : List Param := if m.takesContext then m.params.drop 1 else m.params

/-- The results other than the error. -/
def valueResults (m : Method) : List Param :=
  if m.returnsError then m.results.dropLast else m.results

/-- The expression that passes a parameter on. -/
def argumentFor (p : Param) : Expr :=
  let name := Expr.ident (p.name.getD "_")
  if p.variadic then .spread name else name

/-- The arguments that pass every parameter on. -/
def callArgs (m : Method) : List Expr := m.params.map argumentFor

/-- What to return in place of the results other than the error. -/
def zeroResults (m : Method) : List Expr := m.valueResults.map (·.shape.zero)

/-- New names for the results other than the error. -/
def resultNames (m : Method) (names : Names) : List String × Names :=
  names.allocateAll (m.valueResults.map (·.shape))

/-! ### Preparing a method -/

/-- The method as the given package's importers see it, without names for its results. -/
def qualified (package : String) (m : Method) : Method :=
  let sig := m.signature.qualify package
  ⟨m.name, sig.params, sig.results.map ParamOf.withoutName⟩

/-- Takes the name of a parameter, and says whether the parameter keeps it. The blank name is not
kept, nor is one that is taken. -/
def keepName (names : Names) (p : Param) : Bool × Names :=
  match p.name with
  | some name => if name = "_" then (false, names) else names.reserve name
  | none => (false, names)

/-- Takes the names of parameters in order, and says which of them keep theirs. -/
def keepNames (names : Names) : List Param → List Bool × Names
  | [] => ([], names)
  | p :: ps =>
    let (kept, names) := keepName names p
    let (rest, names) := keepNames names ps
    (kept :: rest, names)

/-- Gives each parameter that does not keep its name a new one, made from its type. -/
def renameParams (names : Names) : List (Param × Bool) → List Param × Names
  | [] => ([], names)
  | (p, true) :: ps =>
    let (rest, names) := renameParams names ps
    (p :: rest, names)
  | (p, false) :: ps =>
    let (name, names) := names.allocateFor p.bodyShape
    let (rest, names) := renameParams names ps
    ({ p with name := some name } :: rest, names)

/-- The method with a usable name for every parameter. The names that are kept are taken before new
ones are made. -/
def withParamNames (m : Method) (names : Names) : Method × Names :=
  let (kept, names) := keepNames names m.params
  let (params, names) := renameParams names (m.params.zip kept)
  ({ m with params := params }, names)

/-- The method as it is written in generated code: qualified by the package it comes from, and with
parameter names that differ from the reserved names and from the package. The names that are then
taken come with it. -/
def prepare (m : Method) (package : String) (reserved : List String) : Method × Names :=
  (m.qualified package).withParamNames ((Names.ofReserved reserved).reserve package).2

end Method

/-! ### Descriptors -/

/-- The kinds of declarations that a pattern can be written for. -/
inductive DescriptorKind where
  | interface
  | function
deriving DecidableEq, Repr

/-- An interface or a function type. -/
structure Descriptor where
  /-- The declared name. -/
  name : String
  /-- Which of the two it is. -/
  kind : DescriptorKind
  /-- The methods in order; for a function type, the one it stands for. -/
  methods : List Method
deriving DecidableEq, Repr

namespace TypeSpec

/-- The descriptor of a type declaration, if it declares an interface or a function type. -/
def descriptor? (spec : TypeSpec) : Option Descriptor :=
  match spec.definition with
  | .interface body =>
    some ⟨spec.name, .interface, body.methods.map fun m ↦ .ofSignature m.name m.signature⟩
  | .shape (.function sig) => some ⟨spec.name, .function, [.ofSignature spec.name sig]⟩
  | _ => none

/-- The warnings about a type declaration: embedded interfaces are left out of its descriptor. -/
def warnings (spec : TypeSpec) : List Record :=
  match spec.definition with
  | .interface body =>
    body.embedded.map fun s ↦
      ⟨.warn, spec.name ++ ": ignoring embedded interface " ++ s.text⟩
  | _ => []

/-- Makes the descriptor of a type declaration, with the warnings that belong to it. -/
def describe? (spec : TypeSpec) : Traced (Option Descriptor) := do
  .report spec.warnings
  return spec.descriptor?

end TypeSpec

end GoDecorator
