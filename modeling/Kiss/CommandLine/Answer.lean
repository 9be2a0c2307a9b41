import Kiss.CommandLine.SourceFile
import Kiss.Program
import Kiss.Syntax.Json
import Kiss.Syntax.Text
import Kiss.Token.Listing

/-!
# Answers

What a command writes and the code with which it exits: 0 if all went well, 1 after a file error
or the failure of a stage, and 2 if there is nothing to be done. Errors go to the error output.
To list tokens and to show a program, the stages are taken one by one and each failure is worded
on the spot; to run a program is one call, and the failure that comes back words itself.
-/

namespace Kiss.CommandLine

/-- What a command comes to. -/
structure Answer where
  code : UInt8
  output : ByteArray
  errors : String

namespace Answer

/-- A text, and nothing wrong. -/
def success (output : String) : Answer := ⟨0, output.toUTF8, ""⟩

/-- A message in place of any output. -/
def failure (message : String) : Answer := ⟨1, ByteArray.empty, message ++ "\n"⟩

end Answer

/-- More rounds than the loops of any program make in practice. -/
def roundLimit : Nat := Nat.pow 2 62

/-- The text of a file, or the answer that it cannot be read. -/
def readSource (name : String) (file : SourceFile) : Except Answer String :=
  match file.text with
  | .error e => .error (.failure (e.message name))
  | .ok source => .ok source

/-- The tokens of a text, or the answer that it cannot be cut. -/
def lex (source : String) : Except Answer (List Token) :=
  match tokenize source with
  | .error e => .error (.failure ("Lexer error: " ++ e.message))
  | .ok tokens => .ok tokens

/-- Lists tokens, as JSON if asked to. -/
def showTokens (json : Bool) (tokens : List Token) : String :=
  if json then (Json.array (tokens.map Token.toJson)).pretty ++ "\n" else Token.listing tokens

/-- Lists the tokens of a text. -/
def tokenizeText (json : Bool) (source : String) : Answer :=
  match lex source with
  | .error failed => failed
  | .ok tokens => .success (showTokens json tokens)

/-- Lists the tokens of a file. -/
def tokenizeFile (json : Bool) (name : String) (file : SourceFile) : Answer :=
  match readSource name file with
  | .error failed => failed
  | .ok source => tokenizeText json source

/-- Shows a program, as JSON if asked to. -/
def showProgram (json : Bool) (program : Stmt) : String :=
  if json then program.toJson.pretty ++ "\n" else program.render

/-- Shows the program that a text holds. -/
def parseText (json : Bool) (source : String) : Answer :=
  match lex source with
  | .error failed => failed
  | .ok tokens =>
      match parse tokens with
      | .error e => .failure ("Parse error: " ++ e.message)
      | .ok program => .success (showProgram json program)

/-- Shows the program that a file holds. -/
def parseFile (json : Bool) (name : String) (file : SourceFile) : Answer :=
  match readSource name file with
  | .error failed => failed
  | .ok source => parseText json source

/-- The bindings of a store, one on each line. -/
def dumpStore (store : Store) : String :=
  String.join (store.sorted.map fun (slot, value) => slot.name ++ " = " ++ value.render ++ "\n")

/-- The answer of a run, unless it is out of rounds. -/
def answerRun (dumpVars : Bool) : Run Buffer → Option Answer
  | .done m => some ⟨0, m.sink.written, if dumpVars then dumpStore m.store else ""⟩
  | .failed e m => some ⟨1, m.sink.written, (Failure.evaluation e).message ++ "\n"⟩
  | .outOfRounds => none

/-- Runs a program text. -/
def runText (bound : Nat) (dumpVars : Bool) (source : String) : Option Answer :=
  match run bound source Buffer.unlimited with
  | .error e => some (.failure e.message)
  | .ok result => answerRun dumpVars result

/-- Runs the program that a file holds. -/
def runFile (bound : Nat) (dumpVars : Bool) (name : String) (file : SourceFile) : Option Answer :=
  match readSource name file with
  | .error failed => some failed
  | .ok source => runText bound dumpVars source

/-- The commands. A program is run from a file, or from a text that is given in its place. -/
inductive Command where
  | tokenize (file : String) (json : Bool)
  | parse (file : String) (json : Bool)
  | run (file source : Option String) (dumpVars : Bool)
  deriving DecidableEq, Repr

namespace Command

/-- The file that a command reads, if there is one. -/
def file? : Command → Option String
  | .tokenize file _ => some file
  | .parse file _ => some file
  | .run file none _ => file
  | .run _ (some _) _ => none

/-- The answer of a command, given what stands under the name of a file. There is none if the
    program is out of rounds. -/
def answer (bound : Nat) (find : String → SourceFile) : Command → Option Answer
  | .tokenize file json => some (tokenizeFile json file (find file))
  | .parse file json => some (parseFile json file (find file))
  | .run _ (some source) dumpVars => runText bound dumpVars source
  | .run (some file) none dumpVars => runFile bound dumpVars file (find file)
  | .run none none _ => some ⟨2, ByteArray.empty, "Error: no program given\n"⟩

end Command

/-- The answer to a row of arguments. How these are read is left open: they make a command, or
    they are answered at once. -/
def answer (read : List String → Except Answer Command) (bound : Nat) (arguments : List String)
    (find : String → SourceFile) : Option Answer :=
  match read arguments with
  | .error reply => some reply
  | .ok command => command.answer bound find

end Kiss.CommandLine
