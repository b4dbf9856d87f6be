import GoDecorator.Decl.Printer
import GoDecorator.Journal
import GoDecorator.Template.Pieces

/-!
# Filling in templates

A template is filled in from bindings of names to values. The two have to match exactly: every
placeholder has a binding and every binding is used, so that a template and the code that fills it
in cannot drift apart unnoticed. The text of a value is put in as it is, and not looked through for
placeholders.
-/

namespace GoDecorator.Template

/-- A syntactic object that can be put into a template. -/
inductive Snippet where
  | type (shape : Shape)
  | param (param : Param)
  | expr (expr : Expr)
  | decl (decl : Decl)
deriving DecidableEq, Repr

/-- The written form of a snippet. -/
def Snippet.text : Snippet → String
  | type s => s.text
  | param p => p.text
  | expr e => e.text
  | decl d => d.text

/-- A value that a name can be bound to. -/
inductive Value where
  | text (text : String)
  | node (snippet : Snippet)
  /-- Snippets with commas between them. -/
  | list (snippets : List Snippet)
deriving DecidableEq, Repr

namespace Value

/-- The text that a value puts in place of a placeholder. -/
def render : Value → String
  | text t => t
  | node snippet => snippet.text
  | list snippets => commaSeparated (snippets.map Snippet.text)

/-- A type as a value. -/
def type (s : Shape) : Value := node (.type s)

/-- An expression as a value. -/
def expr (e : Expr) : Value := node (.expr e)

/-- Expressions as a value. -/
def exprs (es : List Expr) : Value := list (es.map .expr)

/-- Parameters as a value. -/
def params (ps : List Param) : Value := list (ps.map .param)

end Value

/-- Bindings of names to values, in the order in which the names were first bound. -/
abbrev Bindings := List (String × Value)

namespace Bindings

/-- Binds a name. A name that is bound already keeps its place and gets the new value. -/
def set (key : String) (value : Value) : Bindings → Bindings
  | [] => [(key, value)]
  | (k, v) :: rest => if k = key then (k, value) :: rest else (k, v) :: set key value rest

/-- The bindings that come from binding names one after the other. -/
def ofList (pairs : List (String × Value)) : Bindings :=
  pairs.foldl (fun bindings pair ↦ set pair.1 pair.2 bindings) []

/-- The value of a name. -/
def get? (bindings : Bindings) (key : String) : Option Value := bindings.lookup key

theorem get?_set_self (bindings : Bindings) (key : String) (value : Value) :
    get? (set key value bindings) key = some value := by
  unfold get?
  fun_induction set key value bindings with
  | case1 => simp
  | case2 v rest => simp
  | case3 k v rest h ih => simpa [List.lookup_cons, beq_false_of_ne (Ne.symm h)] using ih

theorem get?_set_of_ne (bindings : Bindings) {key other : String} (value : Value)
    (h : other ≠ key) : get? (set key value bindings) other = get? bindings other := by
  unfold get?
  fun_induction set key value bindings with
  | case1 => simp [List.lookup_cons, beq_false_of_ne h]
  | case2 v rest => simp [List.lookup_cons, beq_false_of_ne h]
  | case3 k v rest hk ih => simp only [List.lookup_cons, ih]

end Bindings

/-- The text of the pieces with the placeholders filled in. -/
def fill (bindings : Bindings) : List Piece → Except Error String
  | [] => .ok ""
  | .literal t :: ps => do return t ++ (← fill bindings ps)
  | .placeholder name :: ps =>
    match bindings.get? name with
    | none => .error (.missingKey name)
    | some value => do return value.render ++ (← fill bindings ps)

/-- The first name that is bound and has no placeholder. -/
def unused? (bindings : Bindings) (ps : List Piece) : Option String :=
  (bindings.map Prod.fst).find? fun key ↦ key ∉ placeholders ps

/-- The template with the placeholders filled in. -/
def instantiate (bindings : Bindings) (template : String) : Except Error String := do
  let ps ← pieces template
  let text ← fill bindings ps
  match unused? bindings ps with
  | some key => throw (.unusedKey key)
  | none => return text

/-- Fills in a template and records that it did. -/
def render (bindings : Bindings) (template : String) : Traced String :=
  match instantiate bindings template with
  | .error e => .fail e
  | .ok text => do
    .log .debug ("rendered template with " ++ toString bindings.length ++ " bindings")
    return text

end GoDecorator.Template
