import GoDecorator.CommandLine

/-!
# The program

The part of the command that reads and prints. What is printed is decided by
`GoDecorator.CommandLine`.
-/

namespace GoDecorator.CommandLine

/-- The number that the system gives an error of reading. Some calls give it with a minus sign. -/
def systemCode : IO.Error → Nat
  | .noFileOrDirectory _ code _ => code.toInt32.toInt.natAbs
  | .permissionDenied _ code _ | .inappropriateType _ code _ | .invalidArgument _ code _ =>
    code.toInt32.toInt.natAbs
  | _ => 0

/-- What an error of the system is called in messages. -/
def ReadError.ofSystem (e : IO.Error) : ReadError :=
  (ReadError.ofCode? (systemCode e)).getD (.other (toString e))

/-- All of the standard input. -/
def readStandardInput : IO ByteArray := do
  let stdin ← IO.getStdin
  let mut content := ByteArray.empty
  repeat
    let chunk ← stdin.read 65536
    if chunk.isEmpty then break
    content := content ++ chunk
  return content

/-- The content of a source. -/
def Source.read (source : Source) : IO (Except ReadError ByteArray) := do
  try
    match source with
    | .standardInput => return .ok (← readStandardInput)
    | .file path => return .ok (← IO.FS.readBinFile path)
  catch e => return .error (.ofSystem e)

/-- The answer to the arguments. The source of an invocation is read only if it is needed. -/
def answer (args : List String) : IO Response := do
  match Invocation.ofArgs args with
  | .error halt => return halt.response
  | .ok invocation =>
    match invocation.source? with
    | none => return invocation.response fun _ ↦ .ok .empty
    | some source =>
      let content ← source.read
      return invocation.response fun _ ↦ content

end GoDecorator.CommandLine

/-- Runs the command. -/
def main (args : List String) : IO UInt32 := do
  let response ← GoDecorator.CommandLine.answer args
  IO.print response.stdout
  IO.eprint response.stderr
  return response.exitCode.toUInt32
