import GoDecorator.Decl.Parser
import GoDecorator.Template.Render
import GoDecorator.Text.Blank
import GoDecorator.Token.Lexer

/-!
# Reading source text

Text is read as a file, as one declaration, as a type or as an expression. The last three are read
by putting the text into a small file of its own and reading that. The generator reads its own
output in this way: if that fails, a template is at fault and not the input, and the error says so.

The input of the generator is read by `readInput`. It is a list of declarations or a bare type, and
each of the two readings is tried by filling the input into a template.
-/

namespace GoDecorator

/-- Reads a source file. The inner result says whether the text is a file; the outer one is a crash
if the text has no tokens. -/
def parseSource (source : String) : Outcome (Except ParseError SourceFile) :=
  match Token.scan source with
  | none => .error (.crash (.noStretch (source.length + 1) source.length))
  | some tokens => .ok ((Parser.file.run tokens).map Prod.fst)

/-- Reads a source file. -/
def SourceFile.read (source : String) : Outcome SourceFile := do
  match ← parseSource source with
  | .ok file => return file
  | .error e => throw (.error (.parse e))

/-! ### Fragments -/

/-- Reads a text with exactly one declaration. -/
def parseDecl (text : String) : Outcome (Except ParseError Decl) := do
  match ← parseSource ("package abc\n\n" ++ text ++ "\n") with
  | .error e => return .error e
  | .ok ⟨_, [decl]⟩ => return .ok decl
  | .ok ⟨_, decls⟩ =>
    return .error (.unexpectedToken .oneDeclaration (.declarations decls.length) .unknown)

/-- The answer, or the error that the text is not the kind of text it should be. -/
def orUnreadable {α : Type} (fragment : Fragment) (text : String) :
    Except ParseError α → Outcome α
  | .ok a => .ok a
  | .error e => .error (.error (.unreadableOutput fragment text e))

/-- Reads a declaration. -/
def Decl.read (text : String) : Outcome Decl := do
  orUnreadable .declaration text (← parseDecl text)

/-- The type that a declaration of a type name gives it. -/
def Decl.shapeOf (text : String) : Decl → Except ParseError Shape
  | .type ⟨_, .shape s⟩ => .ok s
  | .type ⟨_, .interface ⟨[], []⟩⟩ => .ok .any
  | .type ⟨_, .struct []⟩ => .ok .emptyStruct
  | .type ⟨_, definition⟩ => .error (.unsupportedType (.definition definition) .unknown)
  | _ => .error (.expectedType (.text text) .unknown)

/-- Reads a type. -/
def Shape.read (text : String) : Outcome Shape := do
  orUnreadable .type text ((← parseDecl ("type abc " ++ text)) >>= Decl.shapeOf text)

/-- The value that a declaration of a variable gives it. -/
def Decl.valueOf (text : String) : Decl → Except ParseError Expr
  | .var ⟨_, _, some value⟩ => .ok value
  | .var _ => .error (.unexpectedToken .expression .nothing .unknown)
  | _ => .error (.unexpectedToken .expression (.text text) .unknown)

/-- Reads an expression. -/
def Expr.read (text : String) : Outcome Expr := do
  orUnreadable .expression text ((← parseDecl ("var abc = " ++ text)) >>= Decl.valueOf text)

/-- Fills in a template and reads the result as a declaration. -/
def renderDecl (bindings : Template.Bindings) (template : String) : Traced Decl := do
  let text ← Template.render bindings template
  Decl.read (Text.trim text)

/-! ### Input -/

/-- The templates that turn an input into a file, in the order in which they are tried. -/
def inputTemplates : List String :=
  ["package whatever\n\n{{TEXT}}\n", "package whatever\n\ntype xxx {{TEXT}}\n"]

/-- Tries the templates from the given index on. `failure` is the error of the last one tried. -/
def readInputWith (input : String) (failure : Error) : Nat → List String → Traced SourceFile
  | _, [] => .fail failure
  | index, template :: templates => do
    let source ← Template.render [("TEXT", .text input)] template
    match ← (parseSource source : Outcome _) with
    | .ok file =>
      .log .debug ("input parsed with template " ++ toString index)
      return file
    | .error e =>
      .log .debug ("template " ++ toString index ++ " rejected input: " ++ e.message)
      readInputWith input (.unreadableInput e) (index + 1) templates

/-- Reads an input: declarations, or a type without a name. -/
def readInput (input : String) : Traced SourceFile :=
  readInputWith input (.io "no templates") 0 inputTemplates

end GoDecorator
