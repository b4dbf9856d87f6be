import GoDecorator.Descriptor.Checks
import GoDecorator.Reading

/-!
# The descriptor of an input

The first interface or function type that an input declares.
-/

namespace GoDecorator

/-- The first descriptor among nodes. -/
def firstDescriptor : List Node → Traced Descriptor
  | [] => .reject .nothingToImplement
  | .typeSpec spec :: nodes => do
    match ← spec.describe? with
    | some d => return d
    | none => firstDescriptor nodes
  | _ :: nodes => firstDescriptor nodes

/-- Reads the first interface or function type of an input. -/
def readDescriptor (input : String) : Traced Descriptor := do
  firstDescriptor (← readInput input).nodes

end GoDecorator
