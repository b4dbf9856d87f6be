import GoDecorator.Span
import GoDecorator.Text.Description

/-!
# Tokens

The tokens of the part of Go that the generator reads. Literals keep their written form, quotes
included, so that a function body can be printed as it was written. Line breaks are tokens: method
lists and function bodies depend on them.

Only the ten words in `Keyword` are set apart. Words that appear in function bodies alone, such as
`return`, are identifiers.
-/

namespace GoDecorator

/-- The reserved words of declarations and types. -/
inductive Keyword where
  | package | imports | type | interface | struct | func | map | chan | var | const
deriving DecidableEq, Repr

namespace Keyword

/-- Every keyword. -/
def all : List Keyword :=
  [package, imports, type, interface, struct, func, map, chan, var, const]

/-- The word. -/
def text : Keyword → String
  | package => "package"
  | imports => "import"
  | type => "type"
  | interface => "interface"
  | struct => "struct"
  | func => "func"
  | map => "map"
  | chan => "chan"
  | var => "var"
  | const => "const"

/-- The keyword that a word spells. -/
def ofText? (word : String) : Option Keyword := all.find? fun k ↦ k.text == word

/-- The form that messages name. -/
def form : Keyword → String
  | package => "Package"
  | imports => "Import"
  | type => "Type"
  | interface => "Interface"
  | struct => "Struct"
  | func => "Func"
  | map => "Map"
  | chan => "Chan"
  | var => "Var"
  | const => "Const"

@[simp] theorem ofText?_text (k : Keyword) : ofText? k.text = some k := by
  cases k <;> decide

end Keyword

/-- The three kinds of brackets. -/
inductive Bracket where
  /-- `(` and `)`. -/
  | paren
  /-- `{` and `}`. -/
  | brace
  /-- `[` and `]`. -/
  | square
deriving DecidableEq, Repr

/-- What a token is, apart from its place. -/
inductive Token.Kind where
  /-- A reserved word. -/
  | keyword (word : Keyword)
  /-- An identifier, the words that only function bodies use included. -/
  | ident (name : String)
  /-- An integer literal as written. -/
  | int (text : String)
  /-- A floating-point literal as written. -/
  | float (text : String)
  /-- A string literal with its quotes. -/
  | str (text : String)
  /-- A rune literal with its quotes. -/
  | rune (text : String)
  /-- An opening bracket. -/
  | opening (bracket : Bracket)
  /-- A closing bracket. -/
  | closing (bracket : Bracket)
  | comma
  | dot
  | ellipsis
  | semicolon
  | colon
  | star
  | amp
  /-- The channel arrow `<-`. -/
  | arrow
  | assign
  /-- The short declaration `:=`. -/
  | define
  /-- Any other operator. -/
  | op (text : String)
  /-- A line break. -/
  | newline
  /-- The end of the source. -/
  | eof
  /-- A character that starts no token. -/
  | unknown (char : Char)
deriving DecidableEq, Repr

/-- A token and its place. -/
structure Token where
  /-- What the token is. -/
  kind : Token.Kind
  /-- Where it stands. -/
  span : Span
deriving DecidableEq, Repr

namespace Token

namespace Kind

/-- The source text of the token. -/
def text : Kind → String
  | keyword word => word.text
  | ident t | int t | float t | str t | rune t | op t => t
  | opening .paren => "("
  | opening .brace => "\x7b"
  | opening .square => "["
  | closing .paren => ")"
  | closing .brace => "\x7d"
  | closing .square => "]"
  | comma => ","
  | dot => "."
  | ellipsis => "..."
  | semicolon => ";"
  | colon => ":"
  | star => "*"
  | amp => "&"
  | arrow => "<-"
  | assign => "="
  | define => ":="
  | newline => "\n"
  | eof => ""
  | unknown c => String.singleton c

/-- The form of the token that messages name. -/
def form : Kind → String
  | keyword word => word.form
  | ident _ => "Ident"
  | int _ => "Int"
  | float _ => "Float"
  | str _ => "Str"
  | rune _ => "Rune"
  | opening .paren => "LParen"
  | opening .brace => "LBrace"
  | opening .square => "LBracket"
  | closing .paren => "RParen"
  | closing .brace => "RBrace"
  | closing .square => "RBracket"
  | comma => "Comma"
  | dot => "Dot"
  | ellipsis => "Ellipsis"
  | semicolon => "Semicolon"
  | colon => "Colon"
  | star => "Star"
  | amp => "Amp"
  | arrow => "Arrow"
  | assign => "Assign"
  | define => "Define"
  | op _ => "Op"
  | newline => "Newline"
  | eof => "Eof"
  | unknown _ => "Unknown"

/-- The description of the token in messages: its form, with the text where the form does not
settle it. -/
def describe (k : Kind) : String :=
  match k with
  | ident t | int t | float t | str t | rune t | op t => Text.applied k.form (Text.quoted t)
  | unknown c => Text.applied k.form (Text.quotedChar c)
  | _ => k.form

/-- Whether the token opens a bracket. -/
def isOpening : Kind → Bool
  | opening _ => true
  | _ => false

/-- Whether the token closes a bracket. -/
def isClosing : Kind → Bool
  | closing _ => true
  | _ => false

/-- Whether a type can start with the token. -/
def startsType : Kind → Bool
  | ident _ | star | opening .square | opening .paren | arrow => true
  | keyword word => word ∈ [.map, .chan, .func, .interface, .struct]
  | _ => false

/-- Whether the token ends a declaration, a method or a field. -/
def isSeparator : Kind → Bool
  | newline | semicolon => true
  | _ => false

end Kind

/-- What is read after the last token. -/
def missing : Token := ⟨.eof, .unknown⟩

end Token

end GoDecorator
