import Kiss.CommandLine.Arguments

/-!
# The program

The outer layer: it looks up the file that a command names, and writes the answer.
-/

namespace Kiss.CommandLine

/-- What the file system holds under a name. The codes are those of the system. -/
def lookUp (name : String) : IO SourceFile := do
  try
    return .file (← IO.FS.readBinFile name)
  catch e =>
    match e with
    | .inappropriateType _ 20 _ => return .insideFile
    | .inappropriateType _ _ _ => return .directory
    | _ => return .missing

/-- Answers a row of arguments and returns the exit code. -/
def execute (arguments : List String) : IO UInt32 := do
  let found ←
    match (readCommand arguments).toOption.bind Command.file? with
    | some name => lookUp name
    | none => pure .missing
  match answer readCommand roundLimit arguments fun _ => found with
  | none => return 1
  | some reply =>
      (← IO.getStdout).write reply.output
      (← IO.getStderr).putStr reply.errors
      return reply.code.toUInt32

end Kiss.CommandLine

def main (arguments : List String) : IO UInt32 :=
  Kiss.CommandLine.execute arguments
