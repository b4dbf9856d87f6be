import GoDecorator.Expr.Basic
import GoDecorator.Token.Basic

/-!
# Declarations

A source file is a package name and a list of declarations: types, functions and package variables.
The parts of a declaration are kept by structure, with one exception. The body of a function is kept
as lines of tokens, because the generator only ever prints it again.
-/

namespace GoDecorator

/-! ### Function bodies -/

/-- A token of a function body. -/
structure BodyToken where
  /-- What the token is. -/
  kind : Token.Kind
  /-- Whether something stands between it and the token before it on the same line. -/
  spaced : Bool
deriving DecidableEq, Repr

/-- A line of a function body; a blank line has no tokens. -/
abbrev Line := List BodyToken

/-- A function body. -/
structure Block where
  /-- The lines between the braces. -/
  lines : List Line
deriving DecidableEq, Repr

namespace Block

/-- The lines after a line that is not blank, each stretch of blank lines reduced to one and those
at the end left out. A blank line is written when the next line that is not blank comes; `gap` says
whether one is due. -/
def settle (gap : Bool) : List Line → List Line
  | [] => []
  | line :: lines =>
    if line.isEmpty then settle true lines
    else if gap then [] :: line :: settle false lines
    else line :: settle false lines

/-- The body with the given lines, without blank lines at its ends and without two in a row. -/
def ofLines (lines : List Line) : Block := ⟨settle false (lines.dropWhile List.isEmpty)⟩

end Block

/-! ### Types -/

/-- A method of an interface. -/
structure MethodSpec where
  /-- The name of the method. -/
  name : String
  /-- Its parameters and results. -/
  signature : Signature
deriving DecidableEq, Repr

/-- The body of an interface. -/
structure InterfaceType where
  /-- The methods it lists, in order. -/
  methods : List MethodSpec
  /-- The interfaces it embeds, in order. -/
  embedded : List Shape
deriving DecidableEq, Repr

/-- A field of a struct. -/
structure Field where
  /-- The name of the field. -/
  name : String
  /-- Its type. -/
  shape : Shape
deriving DecidableEq, Repr

/-- The right-hand side of a type declaration. -/
inductive TypeExpr where
  /-- Any type other than an interface or a struct. -/
  | shape (shape : Shape)
  /-- An interface. -/
  | interface (body : InterfaceType)
  /-- A struct with the given fields. -/
  | struct (fields : List Field)
deriving DecidableEq, Repr

/-- The description of a right-hand side in messages. -/
def TypeExpr.describe : TypeExpr → String
  | .shape s => Text.applied "Shape" s.describe
  | .interface body =>
    Text.applied "Interface" <| Text.record "InterfaceType"
      [("methods", Text.listing (body.methods.map fun m ↦
          Text.record "MethodSpec"
            [("name", Text.quoted m.name), ("func", m.signature.describe)])),
       ("embedded", Text.listing (body.embedded.map Shape.describe))]
  | .struct fields =>
    Text.applied "Struct" <| Text.record "StructType"
      [("fields", Text.listing (fields.map fun f ↦
          Text.record "Field" [("name", Text.quoted f.name), ("shape", f.shape.describe)]))]

/-- A type declaration. -/
structure TypeSpec where
  /-- The declared name. -/
  name : String
  /-- What it is declared to be. -/
  definition : TypeExpr
deriving DecidableEq, Repr

/-! ### Declarations and files -/

/-- A function or a method. -/
structure FuncDecl where
  /-- The receiver, for a method. -/
  receiver : Option Param
  /-- The name. -/
  name : String
  /-- The parameters and results. -/
  signature : Signature
  /-- The body. -/
  body : Block
deriving DecidableEq, Repr

/-- A package variable. -/
structure VarSpec where
  /-- The name. -/
  name : String
  /-- The type, if it is given. -/
  shape : Option Shape
  /-- The initial value, if it is given. -/
  value : Option Expr
deriving DecidableEq, Repr

/-- A declaration of a source file. -/
inductive Decl where
  | type (spec : TypeSpec)
  | func (decl : FuncDecl)
  | var (spec : VarSpec)
deriving DecidableEq, Repr

/-- A source file. -/
structure SourceFile where
  /-- The name in the package clause. -/
  package : String
  /-- The declarations in order. -/
  decls : List Decl
deriving DecidableEq, Repr

/-! ### Nodes -/

/-- A part of a file that a walk over it comes by. -/
inductive Node where
  | file (file : SourceFile)
  | decl (decl : Decl)
  | typeSpec (spec : TypeSpec)
  | method (method : MethodSpec)
  | func (decl : FuncDecl)
deriving DecidableEq, Repr

/-- The nodes of a declaration: itself, what it declares, and the methods of an interface. -/
def Decl.nodes (d : Decl) : List Node :=
  .decl d :: match d with
    | .type spec =>
      .typeSpec spec :: match spec.definition with
        | .interface body => body.methods.map .method
        | _ => []
    | .func decl => [.func decl]
    | .var _ => []

/-- The nodes of a file, each before its parts. -/
def SourceFile.nodes (f : SourceFile) : List Node := .file f :: f.decls.flatMap Decl.nodes

end GoDecorator
