import GoDecorator.Descriptor.Basic

/-!
# Conditions on the input of a pattern

The conditions under which a pattern applies. A check either passes or names the first condition
that is not met.
-/

namespace GoDecorator

/-- The outcome of a check. -/
abbrev Check := Except Rejection

namespace TypeSpec

/-- The descriptor of a type declaration, if it is of the given kind and has methods. -/
def describeAs (kind : DescriptorKind) (spec : TypeSpec) : Check Descriptor :=
  match spec.descriptor?.filter (·.kind = kind), kind with
  | some d, .interface => if d.methods.isEmpty then throw (.noMethods d.name) else return d
  | some d, .function => return d
  | none, .interface => throw (.notAnInterface spec.name)
  | none, .function => throw (.notAFunctionType spec.name)

/-- Makes the descriptor of a type declaration as one of the given kind, with the warnings that
belong to it. They are given whether or not the check passes. -/
def examineAs (kind : DescriptorKind) (spec : TypeSpec) : Traced (Check Descriptor) := do
  .report spec.warnings
  return spec.describeAs kind

end TypeSpec

namespace Descriptor

/-- The one method of a descriptor. -/
def singleMethod (d : Descriptor) : Check Method :=
  match d.methods with
  | [m] => return m
  | ms => throw (.notSingleMethod d.name ms.length)

/-- A check of every method, in order. -/
def forEachMethod (d : Descriptor) (check : Method → Check Unit) : Check Unit :=
  d.methods.forM check

end Descriptor

namespace Method

/-- The last result is an error. -/
def expectError (m : Method) : Check Unit :=
  if m.returnsError then return () else throw (.missingError m.name)

/-- There are no results, or there is one and it is an error. -/
def expectAtMostError (m : Method) : Check Unit :=
  match m.results.length with
  | 0 => return ()
  | 1 => m.expectError
  | found => throw (.resultCount m.name .atMostError found)

/-- There is one result, and it is an error. -/
def expectOnlyError (m : Method) : Check Unit :=
  match m.results.length with
  | 1 => m.expectError
  | found => throw (.resultCount m.name .onlyError found)

/-- There are two results, and the second is an error. -/
def expectValueAndError (m : Method) : Check Unit :=
  match m.results.length with
  | 2 => m.expectError
  | found => throw (.resultCount m.name .valueAndError found)

end Method

end GoDecorator
