import GoDecorator.Pattern.Basic

/-!
# Walking over a file

A visitor is shown the nodes of a file one after the other until it has what it needs. It has a
state of its own that outlives a walk, and in that state it can record that the input is not for it.

The visitor of a pattern waits for the first type declaration. If the pattern applies, it stops with
the declarations that the pattern generates; if not, it records the reason, unless it has recorded
one before, and stops with nothing.
-/

namespace GoDecorator

/-- What a visitor wants after it has seen a node. -/
inductive Visit where
  /-- To see the next node. -/
  | goOn
  /-- To end the walk with the given declarations. -/
  | stop (decls : List Decl)
deriving DecidableEq, Repr

/-- A visitor. -/
structure Visitor where
  /-- The name by which it is asked for. -/
  name : String
  /-- What it generates, in one sentence. -/
  description : String
  /-- What it remembers. -/
  State : Type
  /-- What it remembers at first. -/
  start : State
  /-- What it does on seeing a node. -/
  visit : State → Node → State × Traced Visit
  /-- Why the input is not for it, if it is not. -/
  rejection? : State → Option Rejection

namespace Visitor

/-- Shows nodes to a visitor until it stops or fails. The answer is what it stopped with. -/
def walk (v : Visitor) (state : v.State) :
    List Node → v.State × Traced (Option (List Decl))
  | [] => (state, pure none)
  | node :: nodes =>
    let (state, seen) := v.visit state node
    match seen.outcome with
    | .error e => (state, ⟨seen.journal, .error e⟩)
    | .ok (.stop decls) => (state, ⟨seen.journal, .ok (some decls)⟩)
    | .ok .goOn =>
      let (state, rest) := v.walk state nodes
      (state, ⟨seen.journal ++ rest.journal, rest.outcome⟩)

/-- Shows a file to a visitor. Unless the walk fails, a recorded rejection comes first, and then
what the visitor stopped with. -/
def run (v : Visitor) (state : v.State) (file : SourceFile) : v.State × Traced (List Decl) :=
  let (state, walked) := v.walk state file.nodes
  (state, do
    let output ← walked
    match v.rejection? state, output with
    | some r, _ => .reject r
    | none, some decls => return decls
    | none, none => .reject .nothingToImplement)

/-- Shows a file to a visitor that has seen none before. -/
def runFresh (v : Visitor) (file : SourceFile) : Traced (List Decl) := (v.run v.start file).2

end Visitor

/-- The descriptor of a type declaration that the pattern applies to, or why it does not apply. -/
def Pattern.check (p : Pattern) (spec : TypeSpec) : Check Descriptor := do
  let d ← spec.describeAs p.kind
  p.validate d
  return d

/-- The visitor of a pattern. It remembers the first rejection. -/
def Visitor.ofPattern (p : Pattern) : Visitor where
  name := p.name
  description := p.description
  State := Option Rejection
  start := none
  visit slot
    | .typeSpec spec =>
      match p.check spec with
      | .ok d =>
        (slot, do
          .report spec.warnings
          return .stop (← p.generate d))
      | .error r =>
        (slot.or (some r), do
          .report spec.warnings
          return .stop [])
    | _ => (slot, return .goOn)
  rejection? slot := slot

end GoDecorator
