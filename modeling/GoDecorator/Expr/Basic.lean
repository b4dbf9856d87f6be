import GoDecorator.Shape.Printer

/-!
# Expressions

The expressions that occur outside function bodies: the initial value of a package variable, the
arguments of a forwarded call, and the values a generated function returns in place of a result.
-/

namespace GoDecorator

/-- The operators that stand before their operand. -/
inductive UnaryOp where
  | address | deref | receive | minus | plus | not | complement
deriving DecidableEq, Repr

/-- The written form of an operator. -/
def UnaryOp.text : UnaryOp → String
  | address => "&"
  | deref => "*"
  | receive => "<-"
  | minus => "-"
  | plus => "+"
  | not => "!"
  | complement => "^"

/-- An expression. -/
inductive Expr where
  /-- An identifier, or identifiers joined by points. -/
  | ident (path : String)
  /-- A literal as written. -/
  | literal (text : String)
  /-- A composite literal without elements. -/
  | composite (shape : Shape)
  /-- An operator and its operand. -/
  | unary (op : UnaryOp) (operand : Expr)
  /-- A call. -/
  | call (callee : Expr) (args : List Expr)
  /-- A last argument that is spread over a variadic parameter. -/
  | spread (operand : Expr)
deriving Repr

namespace Expr

/-- Induction on expressions, with the hypothesis for every argument of a call. -/
@[elab_as_elim]
theorem induct {motive : Expr → Prop}
    (ident : ∀ path, motive (.ident path)) (literal : ∀ text, motive (.literal text))
    (composite : ∀ shape, motive (.composite shape))
    (unary : ∀ op e, motive e → motive (.unary op e))
    (call : ∀ f args, motive f → (∀ a ∈ args, motive a) → motive (.call f args))
    (spread : ∀ e, motive e → motive (.spread e)) (e : Expr) : motive e :=
  @Expr.rec motive (fun args ↦ ∀ a ∈ args, motive a)
    ident literal composite unary (fun f args hf ha ↦ call f args hf ha) spread (by simp)
    (fun a args ha hargs b hb ↦ by
      rcases List.mem_cons.1 hb with rfl | hb
      · exact ha
      · exact hargs b hb)
    e

/-! ### Equality -/

mutual

/-- Whether two expressions are the same. -/
def same : Expr → Expr → Bool
  | .ident a, .ident b => a == b
  | .literal a, .literal b => a == b
  | .composite s, .composite t => s == t
  | .unary o a, .unary o' b => o == o' && same a b
  | .call f as, .call g bs => same f g && sameArgs as bs
  | .spread a, .spread b => same a b
  | _, _ => false

/-- Whether two argument lists are the same. -/
def sameArgs : List Expr → List Expr → Bool
  | [], [] => true
  | a :: as, b :: bs => same a b && sameArgs as bs
  | _, _ => false

end

theorem sameArgs_iff {as : List Expr} (h : ∀ a ∈ as, ∀ b, same a b = true ↔ a = b)
    (bs : List Expr) : sameArgs as bs = true ↔ as = bs := by
  induction as generalizing bs with
  | nil => cases bs <;> simp [sameArgs]
  | cons a as ih =>
    cases bs with
    | nil => simp [sameArgs]
    | cons b bs => simp [sameArgs, h a (by simp), ih (fun a ha ↦ h a (by simp [ha]))]

/-- `same` decides equality. -/
theorem same_iff (a b : Expr) : same a b = true ↔ a = b := by
  induction a using Expr.induct generalizing b with
  | ident p => cases b <;> simp [same]
  | literal t => cases b <;> simp [same]
  | composite s => cases b <;> simp [same]
  | unary op e ih => cases b <;> simp [same, ih]
  | call f args hf hargs => cases b <;> simp [same, hf, sameArgs_iff hargs]
  | spread e ih => cases b <;> simp [same, ih]

instance instDecidableEq : DecidableEq Expr := fun a b ↦ decidable_of_iff _ (same_iff a b)

/-! ### Source text -/

mutual

/-- The written form of an expression. -/
def text : Expr → String
  | .ident path => path
  | .literal t => t
  | .composite shape => shape.text ++ "{}"
  | .unary op e => op.text ++ e.text
  | .call f args => f.text ++ "(" ++ commaSeparated (argTexts args) ++ ")"
  | .spread e => e.text ++ "..."

/-- The written forms of arguments. -/
def argTexts : List Expr → List String
  | [] => []
  | e :: es => e.text :: argTexts es

end

theorem argTexts_eq_map (es : List Expr) : argTexts es = es.map text := by
  induction es with
  | nil => rfl
  | cons e es ih => simp [argTexts, ih]

/-- The value `nil`. -/
def nil : Expr := .ident "nil"

end Expr

/-! ### Zero values -/

/-- The value that a generated function returns in place of a value of the given type. A slice or a
map gets an empty collection and not `nil`, so that the caller can use the answer as any other. -/
def Shape.zero (s : Shape) : Expr :=
  match s with
  | .primitive .string => .literal "\"\""
  | .primitive .bool => .ident "false"
  | .primitive .error => .nil
  | .primitive p => .literal (if p.isFloat || p.isComplex then "0.0" else "0")
  | .slice _ | .map _ _ | .named _ _ | .emptyStruct => .composite s
  | .pointer _ | .function _ | .channel _ _ | .context | .any => .nil

end GoDecorator
