import GoDecorator.Pattern.Admission
import GoDecorator.Pattern.Filtering
import GoDecorator.Pattern.Observation
import GoDecorator.Pattern.Retention
import GoDecorator.Visitor

/-!
# The catalogue

A catalogue lists visitors for a package. It answers three requests: generate with the visitor of a
given name, name all visitors, and name those that accept an input. To find out which do, each one
is tried. One that rejects the input or crashes is left out; an error in a template ends the search,
because it is a fault that must not go unnoticed.
-/

namespace GoDecorator

/-- Visitors in order, each for the package that the input comes from. -/
abbrev Catalogue := List (String → Visitor)

/-- The patterns that come with the generator, in order. -/
def standardPatterns : List (String → Pattern) :=
  [Pattern.metrics "prometheus", Pattern.metrics "statsd", Pattern.slog, Pattern.tracing,
   Pattern.fileGetter, Pattern.store .abort, Pattern.store .withError, Pattern.cache,
   Pattern.semaphore, Pattern.throttle .noError, Pattern.throttle .withError,
   Pattern.filter .noError, Pattern.filter .withError, Pattern.filterParam, Pattern.filterReturn]

/-- The name and the description of a visitor. -/
structure Summary where
  /-- The name. -/
  name : String
  /-- The description. -/
  description : String
deriving DecidableEq, Repr

/-- The summary of a visitor. -/
def Visitor.summary (v : Visitor) : Summary := ⟨v.name, v.description⟩

namespace Catalogue

/-- The catalogue of the patterns that come with the generator. -/
def standard : Catalogue := standardPatterns.map fun p package ↦ .ofPattern (p package)

/-- The visitors for a package. -/
def visitors (c : Catalogue) (package : String) : List Visitor := c.map fun v ↦ v package

/-- The first visitor with the given name. -/
def find? (c : Catalogue) (package name : String) : Option Visitor :=
  (c.visitors package).find? fun v ↦ v.name == name

/-- The summaries of all visitors. -/
def summaries (c : Catalogue) (package : String) : List Summary :=
  (c.visitors package).map Visitor.summary

/-- Generates declarations from an input with the visitor of the given name. -/
def implement (c : Catalogue) (package input name : String) : Traced (List Decl) :=
  match c.find? package name with
  | none => .fail (.unknownPattern name)
  | some v => do
    let file ← readInput input
    .log .info ("implementing " ++ v.name ++ " for package " ++ package)
    let decls ← v.runFresh file
    .log .info (v.name ++ " generated " ++ toString decls.length ++ " declarations")
    return decls

/-- Tries a visitor on a file, and says whether it accepts it. -/
def probe (file : SourceFile) (v : Visitor) : Traced Bool :=
  let run := v.runFresh file
  match run.outcome with
  | .ok _ => ⟨run.journal, .ok true⟩
  | .error (.error e) =>
    if e.tier = .template then ⟨run.journal, .error (.error e)⟩
    else ⟨run.journal ++ [⟨.debug, v.name ++ " excluded: " ++ e.message⟩], .ok false⟩
  | .error (.crash c) =>
    ⟨run.journal ++ [⟨.warn, v.name ++ " panicked while probing: " ++ c.text⟩], .ok false⟩

/-- The summaries of those visitors that accept a file, in order. -/
def accepting (file : SourceFile) : List Visitor → Traced (List Summary)
  | [] => return []
  | v :: vs => do
    let accepts ← probe file v
    let rest ← accepting file vs
    return if accepts then v.summary :: rest else rest

/-- The summaries of the visitors that accept an input. -/
def available (c : Catalogue) (package input : String) : Traced (List Summary) := do
  let file ← readInput input
  accepting file (c.visitors package)

end Catalogue

end GoDecorator
