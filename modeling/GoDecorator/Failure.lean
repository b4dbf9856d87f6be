import GoDecorator.Decl.Basic

/-!
# What can go wrong

A failure is kept as its cause; the wording is in one function for each type of cause. Errors fall
into five tiers, which decide the exit code of the command: the input could not be read, the input
is not what a pattern is for, a template of a pattern is broken, there is no such pattern, or the
outside world failed.

Apart from errors there are crashes, where a computation stops without an answer. A crash of one
pattern must not keep the others from being tried, so it is an outcome of its own.
-/

namespace GoDecorator

/-! ### Reading -/

/-- What the parser was looking for. -/
inductive Expectation where
  /-- A token of the given form. -/
  | token (kind : Token.Kind)
  | declaration
  | endOfDeclaration
  | endOfTypeSpec
  | singleReceiver
  | expression
  | oneDeclaration
deriving DecidableEq, Repr

/-- The wording of an expectation. -/
def Expectation.text : Expectation → String
  | token kind => kind.describe
  | declaration => "declaration (type, func, var)"
  | endOfDeclaration => "end of declaration"
  | endOfTypeSpec => "end of type spec"
  | singleReceiver => "single receiver"
  | expression => "expression"
  | oneDeclaration => "exactly one declaration"

/-- What the parser found instead. -/
inductive Finding where
  /-- A token. -/
  | token (kind : Token.Kind)
  /-- A type without a name. -/
  | shape (shape : Shape)
  /-- Text that is quoted as it stands. -/
  | text (text : String)
  | receivers (count : Nat)
  | declarations (count : Nat)
  | nothing
deriving DecidableEq, Repr

/-- The wording of a finding. -/
def Finding.toText : Finding → String
  | token kind => kind.describe
  | shape s => s.describe
  | text t => t
  | receivers n => toString n ++ " receivers"
  | declarations n => toString n ++ " declarations"
  | nothing => "nothing"

/-- The constructs that are recognised and refused. -/
inductive Unsupported where
  | typeParameters
  | typeConstraints
  | embeddedField
  | array
  | inlineInterface
  | inlineStruct
  | genericInstantiation
  /-- An interface or a struct with members where a plain type is expected. -/
  | definition (definition : TypeExpr)
deriving DecidableEq, Repr

/-- The wording of a refused construct. -/
def Unsupported.text : Unsupported → String
  | typeParameters => "type parameters"
  | typeConstraints => "type constraints in interface"
  | embeddedField => "embedded field"
  | array => "array"
  | inlineInterface => "inline interface with methods"
  | inlineStruct => "inline struct with fields"
  | genericInstantiation => "generic instantiation"
  | definition d => d.describe

/-- Why a source text could not be read. -/
inductive ParseError where
  | unexpectedToken (expected : Expectation) (got : Finding) (span : Span)
  | expectedIdent (got : Finding) (span : Span)
  | expectedType (got : Finding) (span : Span)
  | unsupportedType (what : Unsupported) (span : Span)
  | unbalancedBlock (span : Span)
  /-- The parser's budget for nesting and repetition ran out. -/
  | overBudget (span : Span)
deriving DecidableEq, Repr

namespace ParseError

/-- Where the parser stopped. -/
def span : ParseError → Span
  | unexpectedToken _ _ s | expectedIdent _ s | expectedType _ s | unsupportedType _ s
  | unbalancedBlock s | overBudget s => s

/-- The wording of the error. -/
def message : ParseError → String
  | unexpectedToken expected got s =>
    s.text ++ ": unexpected token: expected " ++ expected.text ++ ", got " ++ got.toText
  | expectedIdent got s => s.text ++ ": expected identifier, got " ++ got.toText
  | expectedType got s => s.text ++ ": expected type, got " ++ got.toText
  | unsupportedType what s => s.text ++ ": unsupported type: " ++ what.text
  | unbalancedBlock s => s.text ++ ": unbalanced block"
  | overBudget s => s.text ++ ": input is nested too deeply"

end ParseError

/-! ### Refusing an input -/

/-- The rules on the number of results of a method. -/
inductive ResultRule where
  | atMostError
  | onlyError
  | valueAndError
deriving DecidableEq, Repr

/-- The wording of a rule. -/
def ResultRule.text : ResultRule → String
  | atMostError => "0 or 1 (error)"
  | onlyError => "1 (error)"
  | valueAndError => "2 (value, error)"

/-- The places where a collection can be required. -/
inductive CollectionPlace where
  | firstParameter
  | firstResult
deriving DecidableEq, Repr

/-- The wording of a place. -/
def CollectionPlace.text : CollectionPlace → String
  | firstParameter => "first parameter"
  | firstResult => "first result"

/-- Why a pattern does not apply to an input. -/
inductive Rejection where
  | nothingToImplement
  | notAnInterface (name : String)
  | notAFunctionType (name : String)
  | noMethods (name : String)
  | notSingleMethod (name : String) (count : Nat)
  | resultCount (method : String) (expected : ResultRule) (found : Nat)
  | missingError (method : String)
  | missingContext (method : String)
  | unexpectedParams (method : String)
  | notEnumerable (method : String) (what : CollectionPlace)
deriving DecidableEq, Repr

/-- The wording of a rejection. -/
def Rejection.message : Rejection → String
  | nothingToImplement => "no interface or function type found in input"
  | notAnInterface name => name ++ " is not an interface"
  | notAFunctionType name => name ++ " is not a function type"
  | noMethods name => name ++ " has no methods"
  | notSingleMethod name count =>
    name ++ " should have exactly one method, found " ++ toString count
  | resultCount method expected found =>
    method ++ ": expected " ++ expected.text ++ ", found " ++ toString found ++ " results"
  | missingError method => method ++ ": last result must be error"
  | missingContext method => method ++ ": first parameter must be context.Context"
  | unexpectedParams method => method ++ ": expected no parameters other than a context"
  | notEnumerable method what => method ++ ": " ++ what.text ++ " must be a slice or a map"

/-! ### Errors -/

/-- The kinds of source text that generated text is read as. -/
inductive Fragment where
  | declaration
  | type
  | expression
deriving DecidableEq, Repr

/-- The wording of a kind of source text. -/
def Fragment.text : Fragment → String
  | declaration => "declaration"
  | type => "type"
  | expression => "expression"

/-- The tiers of errors. -/
inductive Tier where
  | parse
  | validation
  | template
  | usage
  | io
deriving DecidableEq, Repr

/-- The exit code of the command after an error of the tier. -/
def Tier.exitCode : Tier → Nat
  | parse => 2
  | usage => 3
  | validation => 4
  | template => 70
  | io => 74

/-- An error. -/
inductive Error where
  /-- A source text could not be read. -/
  | parse (cause : ParseError)
  /-- The input can be read neither as declarations nor as a function type. -/
  | unreadableInput (cause : ParseError)
  /-- The pattern does not apply to the input. -/
  | rejected (reason : Rejection)
  | unknownPattern (name : String)
  | missingKey (key : String)
  | unusedKey (key : String)
  | unterminatedPlaceholder (offset : Nat)
  | invalidPlaceholder (text : String)
  /-- Generated text could not be read as what it should be. -/
  | unreadableOutput (fragment : Fragment) (text : String) (cause : ParseError)
  | io (message : String)
deriving DecidableEq, Repr

namespace Error

/-- The tier of an error. -/
def tier : Error → Tier
  | parse _ | unreadableInput _ => .parse
  | rejected _ => .validation
  | unknownPattern _ => .usage
  | missingKey _ | unusedKey _ | unterminatedPlaceholder _ | invalidPlaceholder _
  | unreadableOutput _ _ _ => .template
  | io _ => .io

/-- The exit code of the command after an error. -/
def exitCode (e : Error) : Nat := e.tier.exitCode

/-- Where the input is at fault, if that is known. -/
def span? : Error → Option Span
  | parse cause | unreadableInput cause => some cause.span
  | _ => none

/-- The wording of an error. -/
def message : Error → String
  | parse cause => cause.message
  | unreadableInput cause =>
    "input is neither an interface nor a function type: " ++ cause.message
  | rejected reason => reason.message
  | unknownPattern name => "unknown implementation: " ++ name
  | missingKey key => "template references unbound placeholder \x7b\x7b" ++ key ++ "\x7d\x7d"
  | unusedKey key => "template binding " ++ key ++ " is never referenced"
  | unterminatedPlaceholder offset => "unterminated placeholder at offset " ++ toString offset
  | invalidPlaceholder text => "invalid placeholder " ++ Text.quoted text
  | unreadableOutput fragment text cause =>
    "generated " ++ fragment.text ++ " does not parse: " ++ cause.message ++ "\n" ++ text
  | io message => "IO error: " ++ message

/-- The wording of the cause behind an error that has one. -/
def causeMessage? : Error → Option String
  | unreadableInput cause | unreadableOutput _ _ cause => some cause.message
  | rejected reason => some reason.message
  | _ => none

end Error

/-! ### Failures -/

/-- Why a computation stopped without an answer. -/
inductive Crash where
  /-- It gave a message. -/
  | message (text : String)
  /-- It gave none. -/
  | silent
  /-- A list has no element at an index. -/
  | noElement (index length : Nat)
  /-- A list has no stretch up to an index. -/
  | noStretch (stop length : Nat)
deriving DecidableEq, Repr

/-- The wording of a crash. -/
def Crash.text : Crash → String
  | message t => t
  | silent => "unknown panic"
  | noElement index length =>
    "index out of bounds: the len is " ++ toString length ++ " but the index is " ++ toString index
  | noStretch stop length =>
    "range end index " ++ toString stop ++ " out of range for slice of length " ++ toString length

/-- How a computation can fail. -/
inductive Failure where
  | error (error : Error)
  | crash (crash : Crash)
deriving DecidableEq, Repr

/-- The outcome of a computation that can fail. -/
abbrev Outcome := Except Failure

/-- The element at an index, or a crash. -/
def elementAt {α : Type} (xs : List α) (i : Nat) : Outcome α :=
  match xs[i]? with
  | some x => .ok x
  | none => .error (.crash (.noElement i xs.length))

end GoDecorator
