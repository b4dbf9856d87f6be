import GoDecorator.Listing

/-!
# The command line

The command has two subcommands. `implement` generates declarations from an input with the pattern
of a given name, and `list` names patterns, all of them or those that accept an input. The input is
a file or, if none is given, the standard input; it is read only if the subcommand needs it.

Options can be given in the usual forms: `-p m`, `-pm`, `-p=m`, `--package m` and `--package=m`.
Flags of one letter can be joined, and `--` ends the options. The option for the input file can
stand on either side of the subcommand, and the one after it counts. No option can be given twice on
the same side.

Everything here is a function of the arguments and of what was read; reading and printing is left to
`main`.
-/

namespace GoDecorator.CommandLine

/-! ### Options -/

/-- The options. -/
inductive Opt where
  | file
  | package
  | available
  | json
  | help
  | version
deriving DecidableEq, Repr

/-- Whether an option has a value. -/
def Opt.takesValue : Opt → Bool
  | file | package => true
  | _ => false

/-- The places where options are read: before a subcommand, or after one. -/
inductive Place where
  | root
  | implement
  | list
deriving DecidableEq, Repr

namespace Place

/-- The options that can be given at a place. -/
def options : Place → List Opt
  | root => [.file, .help, .version]
  | implement => [.package, .file, .help]
  | list => [.available, .package, .json, .file, .help]

/-- The option of a letter. -/
def short? (place : Place) (c : Char) : Option Opt :=
  place.options.find? fun
    | .file => c == 'f'
    | .package => c == 'p'
    | .available => c == 'a'
    | .json => false
    | .help => c == 'h'
    | .version => c == 'V'

/-- The option of a word. -/
def long? (place : Place) (word : String) : Option Opt :=
  place.options.find? fun
    | .file => word == "file"
    | .package => word == "package"
    | .available => word == "available"
    | .json => word == "json"
    | .help => word == "help"
    | .version => word == "version"

end Place

/-- Why the arguments do not lead to a subcommand. -/
inductive Halt where
  /-- They are not as they should be. -/
  | usage
  /-- They ask for help. -/
  | help
  /-- They ask for the version. -/
  | version
deriving DecidableEq, Repr

/-- What has been given at one place. -/
structure Given where
  /-- The input file. -/
  file : Option String
  /-- The package. -/
  package : Option String
  /-- Whether only patterns that accept the input are asked for. -/
  available : Bool
  /-- Whether JSON is asked for. -/
  json : Bool
  /-- The name of a pattern. -/
  pattern : Option String
deriving DecidableEq, Repr

namespace Given

/-- Nothing has been given. -/
def nothing : Given := ⟨none, none, false, false, none⟩

/-- Gives an option its value. The name of a file is not empty. -/
def set (g : Given) (o : Opt) (value : String) : Except Halt Given :=
  match o with
  | .file =>
    if g.file.isSome || value.isEmpty then throw .usage else return { g with file := value }
  | .package => if g.package.isSome then throw .usage else return { g with package := value }
  | _ => throw .usage

/-- Gives an option that has no value. -/
def flag (g : Given) (o : Opt) : Except Halt Given :=
  match o with
  | .available => if g.available then throw .usage else return { g with available := true }
  | .json => if g.json then throw .usage else return { g with json := true }
  | .help => throw .help
  | .version => throw .version
  | _ => throw .usage

/-- Gives the name of a pattern, where one can stand. -/
def positional (g : Given) (place : Place) (value : String) : Except Halt Given :=
  if place = .implement && g.pattern.isNone then return { g with pattern := value }
  else throw .usage

end Given

/-! ### Arguments -/

/-- The forms of an argument. -/
inductive Argument where
  /-- The end of the options. -/
  | endOfOptions
  /-- An option by its word, with the value that is attached to it. -/
  | long (word : String) (value : Option String)
  /-- Options by their letters, perhaps with a value after the last one. -/
  | short (letters : List Char)
  /-- Anything else. -/
  | plain (text : String)
deriving DecidableEq, Repr

/-- The word before the first equals sign, and the text after it. -/
def splitValue (cs : List Char) : String × Option String :=
  let word := String.ofList (cs.takeWhile (· ≠ '='))
  match cs.dropWhile (· ≠ '=') with
  | [] => (word, none)
  | _ :: value => (word, some (String.ofList value))

/-- The form of an argument. A hyphen alone is plain. -/
def Argument.ofText (arg : String) : Argument :=
  match arg.toList with
  | ['-', '-'] => .endOfOptions
  | '-' :: '-' :: cs => let (word, value) := splitValue cs; .long word value
  | '-' :: c :: cs => .short (c :: cs)
  | _ => .plain arg

/-- Reads options by their letters. An option with a value takes what follows its letter, without an
equals sign in front; if nothing follows, its value is still due. -/
def readLetters (place : Place) (g : Given) : List Char → Except Halt (Given × Option Opt)
  | [] => return (g, none)
  | c :: cs =>
    match place.short? c with
    | none => throw .usage
    | some o =>
      if o.takesValue then
        match cs with
        | [] => return (g, some o)
        | '=' :: value => return (← g.set o (String.ofList value), none)
        | value => return (← g.set o (String.ofList value), none)
      else do readLetters place (← g.flag o) cs

/-- Reads an option by its word; its value may be due afterwards. -/
def readWord (place : Place) (g : Given) (word : String) (value : Option String) :
    Except Halt (Given × Option Opt) :=
  match place.long? word, value with
  | none, _ => throw .usage
  | some o, some value => if o.takesValue then return (← g.set o value, none) else throw .usage
  | some o, none => if o.takesValue then return (g, some o) else return (← g.flag o, none)

/-- What the subcommand `help` comes to with the given arguments. It can be asked about one
subcommand, itself included. -/
def Halt.ofTopics : List String → Halt
  | [] => .help
  | [topic] => if topic ∈ ["implement", "list", "help"] then .help else .usage
  | _ => .usage

/-- The place after a subcommand, given by its word and the arguments that follow it. -/
def subcommand (word : String) (args : List String) : Except Halt Place :=
  match word with
  | "implement" => return .implement
  | "list" => return .list
  | "help" => throw (.ofTopics args)
  | _ => throw .usage

/-- Reads the arguments at a place. The result is what they give and, before a subcommand, the
subcommand with the arguments after it. -/
def readArgs (place : Place) (g : Given) :
    List String → Except Halt (Given × Option (Place × List String))
  | [] => return (g, none)
  | arg :: args => do
    let afterOption (result : Given × Option Opt) :
        Except Halt (Given × Option (Place × List String)) := do
      match result, args with
      | (g, none), args => readArgs place g args
      | (_, some _), [] => throw .usage
      | (g, some o), value :: args =>
        match Argument.ofText value with
        | .plain value => readArgs place (← g.set o value) args
        | _ => throw .usage
    match Argument.ofText arg with
    | .endOfOptions => return (← args.foldlM (fun g arg ↦ g.positional place arg) g, none)
    | .long word value => afterOption (← readWord place g word value)
    | .short letters => afterOption (← readLetters place g letters)
    | .plain text =>
      if place = .root then return (g, some (← subcommand text args, args))
      else readArgs place (← g.positional place text) args

/-! ### Commands -/

/-- A subcommand with what it needs. -/
inductive Command where
  | implement (pattern package : String)
  | list (available json : Bool) (package : String)
deriving DecidableEq, Repr

/-- A command and the file to read its input from. -/
structure Invocation where
  /-- The command. -/
  command : Command
  /-- The input file, if one is given. -/
  file : Option String
deriving DecidableEq, Repr

/-- The command that has been given after a subcommand. -/
def Given.command (g : Given) : Place → Except Halt Command
  | .root => throw .usage
  | .implement =>
    match g.pattern, g.package with
    | some pattern, some package => return .implement pattern package
    | _, _ => throw .usage
  | .list => return .list g.available g.json (g.package.getD "pkg")

/-- The invocation that the arguments ask for. -/
def Invocation.ofArgs (args : List String) : Except Halt Invocation := do
  match ← readArgs .root .nothing args with
  | (_, none) => throw .usage
  | (before, some (place, args)) =>
    let (after, _) ← readArgs place .nothing args
    return ⟨← after.command place, after.file.or before.file⟩

/-! ### Input -/

/-- Where an input comes from. -/
inductive Source where
  | standardInput
  | file (path : String)
deriving DecidableEq, Repr

/-- The name of a source in messages. -/
def Source.text : Source → String
  | standardInput => "stdin"
  | file path => path

/-- Why a source could not be read. -/
inductive ReadError where
  | notFound
  | permissionDenied
  /-- A part of the path other than the last one is a file. -/
  | notADirectory
  | isADirectory
  | nameTooLong
  /-- The content is not text in UTF-8. -/
  | notText
  | other (text : String)
deriving DecidableEq, Repr

/-- The wording of an error. -/
def ReadError.text : ReadError → String
  | notFound => "No such file or directory (os error 2)"
  | permissionDenied => "Permission denied (os error 13)"
  | notADirectory => "Not a directory (os error 20)"
  | isADirectory => "Is a directory (os error 21)"
  | nameTooLong => "File name too long (os error 36)"
  | notText => "stream did not contain valid UTF-8"
  | other t => t

/-- The error that the system numbers so. -/
def ReadError.ofCode? : Nat → Option ReadError
  | 2 => some notFound
  | 13 => some permissionDenied
  | 20 => some notADirectory
  | 21 => some isADirectory
  | 36 => some nameTooLong
  | _ => none

namespace Invocation

/-- The source that has to be read for the command, if any. -/
def source? (i : Invocation) : Option Source :=
  let source := (i.file.map Source.file).getD .standardInput
  match i.command with
  | .implement _ _ => some source
  | .list available _ _ => if available then some source else none

end Invocation

/-! ### Answers -/

/-- What the command prints and how it ends. -/
structure Response where
  /-- The exit code. -/
  exitCode : Nat
  /-- The standard output. -/
  stdout : String
  /-- The standard error output. -/
  stderr : String
deriving DecidableEq, Repr

/-- What goes wrong when a command is carried out. -/
inductive Trouble where
  | failure (failure : Failure)
  | read (source : Source) (error : ReadError)
deriving DecidableEq, Repr

namespace Trouble

/-- The exit code. -/
def exitCode : Trouble → Nat
  | failure (.error e) => e.exitCode
  | failure (.crash _) => 101
  | read _ _ => Tier.io.exitCode

/-- The wording, the cause behind an error included. -/
def text : Trouble → String
  | failure (.error e) => e.message ++ (e.causeMessage?.map (": " ++ ·)).getD ""
  | failure (.crash c) => c.text
  | read source e => "reading " ++ source.text ++ ": " ++ e.text

/-- What the wording follows: a crash is told apart from an error. -/
def label : Trouble → String
  | failure (.crash _) => "Crash: "
  | _ => "Error: "

/-- What the command prints. -/
def response (t : Trouble) : Response := ⟨t.exitCode, "", t.label ++ t.text ++ "\n"⟩

end Trouble

/-- The text of an input. An input has to be text in UTF-8 and not blank. -/
def inputText (source : Source) (content : Except ReadError ByteArray) : Except Trouble String :=
  match content with
  | .error e => throw (.read source e)
  | .ok bytes =>
    match String.fromUTF8? bytes with
    | none => throw (.read source .notText)
    | some text =>
      if Text.isBlankText text then throw (.failure (.error (.io "input is empty")))
      else return text

/-- What a list of patterns is printed as. -/
def listOutput (json : Bool) (summaries : List Summary) : String :=
  if json then listJson summaries ++ "\n"
  else if summaries.isEmpty then ""
  else listText summaries ++ "\n"

/-- The output of a command on an input. -/
def Command.output (input : Except Trouble String) : Command → Except Trouble String
  | .implement pattern package => do
    let decls := (Catalogue.standard.implement package (← input) pattern).outcome
    return printDecls (← decls.mapError .failure) ++ "\n"
  | .list false json package => return listOutput json (Catalogue.standard.summaries package)
  | .list true json package => do
    let summaries := (Catalogue.standard.available package (← input)).outcome
    return listOutput json (← summaries.mapError .failure)

/-- The answer to an invocation, given how its source could be read. -/
def Invocation.response (i : Invocation) (read : Source → Except ReadError ByteArray) : Response :=
  let source := i.source?.getD .standardInput
  match i.command.output (inputText source (read source)) with
  | .ok output => ⟨0, output, ""⟩
  | .error trouble => trouble.response

/-- The name and the version of the command. -/
def versionText : String := "pattern-implement 0.1.0\n"

/-- How the command is used. -/
def usageText : String :=
  "usage: pattern-implement [-f FILE] implement NAME -p PACKAGE [-f FILE]\n" ++
  "       pattern-implement [-f FILE] list [-a] [-p PACKAGE] [--json] [-f FILE]\n" ++
  "       pattern-implement --version\n"

/-- What is printed when no subcommand is carried out. -/
def Halt.response : Halt → Response
  | usage => ⟨2, "", usageText⟩
  | help => ⟨0, usageText, ""⟩
  | version => ⟨0, versionText, ""⟩

end GoDecorator.CommandLine
