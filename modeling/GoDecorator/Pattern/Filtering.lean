import GoDecorator.Pattern.Basic

/-!
# Patterns that filter

Wrappers of an interface with one method that ask a list of predicates: whether to let a call
through at all, or which elements of a collection to keep, on its way in or on its way out.
-/

namespace GoDecorator.Pattern

open Template

/-! ### The wrapper -/

namespace Filter

/-- The struct that holds the wrapped value and the predicates. -/
def structTemplate : String := r#"
type Filter struct {
	{{Field}} {{Iface}}
	filters {{Filters}}
}
"#

/-- The constructor of the wrapper. -/
def constructorTemplate : String := r#"
func New({{Field}} {{Iface}}, filters {{Filters}}) *Filter {
	return &Filter{
		{{Field}}: {{Field}},
		filters: filters,
	}
}
"#

/-- The names of the wrapper's own fields, parameters and variables. -/
def locals : List String := ["filters", "f", "filter"]

/-- The name of the field for the wrapped value, and the declarations of the wrapper whose
predicates have the given type. -/
def wrapper (package : String) (d : Descriptor) (predicate : Shape) :
    Traced (String × List Decl) := do
  let field := d.fieldName locals
  let bindings : Bindings :=
    [("Field", .text field), ("Iface", .type (d.wrapped package)),
     ("Filters", .type (.slice predicate))]
  let struct ← renderDecl bindings structTemplate
  let constructor ← renderDecl bindings constructorTemplate
  return (field, [struct, constructor])

/-! ### Filtering calls -/

/-- What the caller sees of a call that is filtered out. -/
inductive Mode where
  /-- Nothing, or no error. -/
  | noError
  /-- An error. -/
  | withError
deriving DecidableEq, Repr

/-- The error of a call that is filtered out. -/
def sentinel : String := r#"var ErrFiltered = errors.New("filtered")"#

/-- The method. -/
def methodTemplate : String := r#"
func (f *Filter) {{Method}}{{Signature}} {
	for _, filter := range f.filters {
		if !filter({{Args}}) {
			return {{Rejected}}
		}
	}

	{{Forward}}
}
"#

/-- What a call that is filtered out returns. -/
def refusal (mode : Mode) (m : Method) : List Expr :=
  match mode with
  | .noError => if m.results.isEmpty then [] else [.nil]
  | .withError => [.ident "ErrFiltered"]

/-- The name of the pattern. -/
def name : Mode → String
  | .noError => "filter"
  | .withError => "filter-error"

/-- The description of the pattern. -/
def description : Mode → String
  | .noError =>
    "Stop processing call if any of the filter functions return false, don't return error"
  | .withError =>
    "Stop processing call if any of the filter functions return false, returns error"

/-- The condition on the method. -/
def expectRefusable : Mode → Method → Check Unit
  | .noError => Method.expectAtMostError
  | .withError => Method.expectOnlyError

/-- The declaration of the error, in the mode that has one. -/
def sentinelDecls : Mode → Traced (List Decl)
  | .noError => return []
  | .withError => return [← Decl.read sentinel]

end Filter

/-- Lets a call through if all predicates accept its arguments. -/
def filter (mode : Filter.Mode) (package : String) : Pattern where
  name := Filter.name mode
  description := Filter.description mode
  kind := .interface
  validate d := do Filter.expectRefusable mode (← d.singleMethod)
  generate d := do
    let m := ((← Traced.ofCheck d.singleMethod).prepare package Filter.locals).1
    let predicate ← predicateOver m.params
    let (field, decls) ← Filter.wrapper package d predicate
    let method ← renderDecl
      [("Method", .text m.name), ("Signature", .text m.signature.text),
       ("Args", .exprs m.callArgs), ("Rejected", .exprs (Filter.refusal mode m)),
       ("Forward", .text (m.forward (m.delegate "f" field m.callArgs)))]
      Filter.methodTemplate
    let sentinel ← Filter.sentinelDecls mode
    return sentinel ++ decls ++ [method]

/-! ### Collections -/

/-- A slice or a map that is filtered, directly or behind one pointer. -/
structure Collection where
  /-- The type of the slice or the map. -/
  shape : Shape
  /-- Whether it is behind a pointer. -/
  pointer : Bool
deriving DecidableEq, Repr

namespace Collection

/-- The collection of a type, or the rejection of a type that is none. -/
def ofShape (s : Shape) (method : String) (place : CollectionPlace) : Check Collection :=
  let (inner, pointer) := match s with
    | .pointer target => (target, true)
    | other => (other, false)
  match inner with
  | .slice _ | .map _ _ => return ⟨inner, pointer⟩
  | _ => throw (.notEnumerable method place)

/-- Whether the collection is a map. -/
def isMap (c : Collection) : Bool :=
  match c.shape with
  | .map _ _ => true
  | _ => false

/-- The type of what the predicates are asked about. -/
def element (c : Collection) : Shape :=
  match c.shape with
  | .slice elem => elem
  | .map _ value => value
  | other => other

/-- The names in the loop that filters a collection. -/
structure Loop where
  /-- The collection. -/
  source : String
  /-- What is kept of it. -/
  kept : String
  /-- The current element. -/
  item : String
  /-- The current key of a map. -/
  key : String
deriving DecidableEq, Repr

/-- The bindings for the loop that filters a collection. -/
def loopBindings (c : Collection) (l : Loop) : Bindings :=
  let range := (if c.isMap then l.key else "_") ++ ", " ++ l.item
  let keep :=
    if c.isMap then l.kept ++ "[" ++ l.key ++ "] = " ++ l.item
    else l.kept ++ " = append(" ++ l.kept ++ ", " ++ l.item ++ ")"
  [("Kept", .text l.kept), ("Empty", .expr c.shape.zero), ("Range", .text range),
   ("Source", .text ((if c.pointer then "*" else "") ++ l.source)), ("Item", .text l.item),
   ("Keep", .text keep)]

/-- What is kept, in the form in which the collection is passed. -/
def result (c : Collection) (kept : String) : Expr :=
  if c.pointer then .unary .address (.ident kept) else .ident kept

/-- Takes names for what is kept, for the current element and, in a map, for its key. -/
def loopNames (c : Collection) (source : String) (names : Names) : Loop :=
  let (kept, names) := names.allocate "filtered"
  let (item, names) := names.allocateFor c.element
  let key := if c.isMap then (names.allocate "key").1 else ""
  ⟨source, kept, item, key⟩

end Collection

/-! ### Filtering an argument -/

namespace FilterParam

/-- The method. -/
def methodTemplate : String := r#"
func (f *Filter) {{Method}}{{Signature}} {
	{{Kept}} := {{Empty}}
OUTER:
	for {{Range}} := range {{Source}} {
		for _, filter := range f.filters {
			if !filter({{Item}}) {
				continue OUTER
			}
		}
		{{Keep}}
	}

	{{Forward}}
}
"#

/-- The index of the parameter that is filtered, the first one besides the context. -/
def targetIndex (m : Method) : Nat := if m.takesContext then 1 else 0

/-- The collection that is filtered. -/
def target (m : Method) : Check Collection :=
  match m.params[targetIndex m]? with
  | none => throw (.notEnumerable m.name .firstParameter)
  | some p => Collection.ofShape p.bodyShape m.name .firstParameter

end FilterParam

/-- Passes on only those elements of the first argument that all predicates accept. -/
def filterParam (package : String) : Pattern where
  name := "filter-param"
  description :=
    "Filter collection that is passed by function parameters using list of given functions"
  kind := .interface
  validate d := do
    let _ ← FilterParam.target (← d.singleMethod)
  generate d := do
    let (m, names) := (← Traced.ofCheck d.singleMethod).prepare package Filter.locals
    let collection ← Traced.ofCheck (FilterParam.target m)
    let predicate ← predicateOver [.unnamed collection.element]
    let (field, decls) ← Filter.wrapper package d predicate
    let index := FilterParam.targetIndex m
    let param ← elementAt m.params index
    let loop := collection.loopNames (param.name.getD "") names
    let filtered :=
      if param.variadic then .spread (.ident loop.kept) else collection.result loop.kept
    let args ← replaceAt m.callArgs index filtered
    let method ← renderDecl
      ([("Method", .text m.name), ("Signature", .text m.signature.text),
        ("Forward", .text (m.forward (m.delegate "f" field args)))] ++
        collection.loopBindings loop)
      FilterParam.methodTemplate
    return decls ++ [method]

/-! ### Filtering a result -/

namespace FilterReturn

/-- The method. -/
def methodTemplate : String := r#"
func (f *Filter) {{Method}}{{Signature}} {
	{{Results}} := {{Call}}
{{Guards}}
	{{Kept}} := {{Empty}}
OUTER:
	for {{Range}} := range {{Source}} {
		for _, filter := range f.filters {
			if !filter({{Item}}) {
				continue OUTER
			}
		}
		{{Keep}}
	}

	return {{Returns}}
}
"#

/-- The collection that is filtered. -/
def target (m : Method) : Check Collection :=
  match m.results.head? with
  | none => throw (.notEnumerable m.name .firstResult)
  | some r => Collection.ofShape r.shape m.name .firstResult

/-- An early return of the results under a condition. -/
def guard (results condition : String) : String :=
  "\tif " ++ condition ++ " \x7b\n\t\treturn " ++ results ++ "\n\t\x7d\n"

/-- The early returns before the filtering: when the call has failed, and when there is no
collection. -/
def guards (c : Collection) (results : List Expr) (err : Option String) (source : String) :
    String :=
  let conditions :=
    (err.map (· ++ " != nil")).toList ++ if c.pointer then [source ++ " == nil"] else []
  String.join (conditions.map (guard (commaSeparated (results.map Expr.text))))

/-- Takes a name for the error of a method that can fail. -/
def errorName (m : Method) (names : Names) : Option String × Names :=
  if m.returnsError then
    let (err, names) := names.allocate "err"
    (some err, names)
  else (none, names)

end FilterReturn

/-- Returns only those elements of the first result that all predicates accept. -/
def filterReturn (package : String) : Pattern where
  name := "filter-return"
  description := "Filter collection that is returned using list of given functions"
  kind := .interface
  validate d := do
    let _ ← FilterReturn.target (← d.singleMethod)
  generate d := do
    let (m, names) := (← Traced.ofCheck d.singleMethod).prepare package Filter.locals
    let collection ← Traced.ofCheck (FilterReturn.target m)
    let predicate ← predicateOver [.unnamed collection.element]
    let (field, decls) ← Filter.wrapper package d predicate
    let (values, names) := m.resultNames names
    let (err, names) := FilterReturn.errorName m names
    let results := (values ++ err.toList).map Expr.ident
    let source := (← elementAt results 0).text
    let loop := collection.loopNames source names
    let returns ← replaceAt results 0 (collection.result loop.kept)
    let method ← renderDecl
      ([("Method", .text m.name), ("Signature", .text m.signature.text),
        ("Call", .expr (m.delegate "f" field m.callArgs)),
        ("Guards", .text (FilterReturn.guards collection results err source)),
        ("Returns", .exprs returns), ("Results", .exprs results)] ++
        collection.loopBindings loop)
      FilterReturn.methodTemplate
    return decls ++ [method]

end GoDecorator.Pattern
