import Kiss.CommandLine.Answer

/-!
# Arguments

What a row of arguments asks for. The first argument names a command or asks for the version
or for help; options and file names may follow in any order, each at most once. Behind two
hyphens everything is a file name. An option with a value takes it from the next argument, if
that does not look like an option, or has it attached.
-/

namespace Kiss.CommandLine

/-- What is asked for. -/
inductive Request where
  | version
  | help
  | command (command : Command)
  deriving DecidableEq, Repr

/-- The options that a command knows: a switch, and possibly a program given in place of a
    file. -/
structure Options where
  switch : String
  takesSource : Bool
  deriving DecidableEq, Repr

/-- The arguments of a command, as far as they have been read. -/
structure Given where
  file : Option String
  switch : Bool
  source : Option String
  deriving DecidableEq, Repr

namespace Given

/-- Nothing given. -/
def nothing : Given := ⟨none, false, none⟩

/-- A file name, which may not be empty and is given once. -/
def withFile? (given : Given) (name : String) : Option Given :=
  if name.isEmpty || given.file.isSome then none else some { given with file := some name }

/-- The switch, which is given once. -/
def withSwitch? (given : Given) : Option Given :=
  if given.switch then none else some { given with switch := true }

/-- A program text, which is given once. -/
def withSource? (given : Given) (source : String) : Option Given :=
  if given.source.isSome then none else some { given with source := some source }

/-- File names only. -/
def withFiles? : Given → List String → Option Given
  | given, [] => some given
  | given, name :: rest =>
      match given.withFile? name with
      | some given => given.withFiles? rest
      | none => none

end Given

/-- An argument without a given beginning. -/
def withoutStart? (start argument : String) : Option String :=
  let rest := argument.toList.drop start.length
  if start.toList ++ rest = argument.toList then some (String.ofList rest) else none

/-- Whether an argument looks like an option. A single hyphen is a file name. -/
def isOption (argument : String) : Bool :=
  (withoutStart? "-" argument).isSome && argument != "-"

/-- Whether an argument asks for help; what follows the letter does not matter. -/
def asksForHelp (argument : String) : Bool :=
  argument == "--help" || (withoutStart? "-h" argument).isSome

/-- The program text that is attached to an option, behind an equals sign or, for the short
    option, with nothing between. -/
def attachedSource? (argument : String) : Option String :=
  match withoutStart? "--eval=" argument, withoutStart? "-e=" argument with
  | some source, _ => some source
  | none, some source => some source
  | none, none => withoutStart? "-e" argument

/-- Reads the arguments of a command from left to right, up to a request for help. -/
def readGiven (options : Options) (given : Given) : List String → Option (Request ⊕ Given)
  | [] => some (.inr given)
  | "--" :: rest => (given.withFiles? rest).map .inr
  | argument :: rest =>
      if asksForHelp argument then some (.inl .help)
      else if argument = options.switch then
        given.withSwitch?.bind fun given => readGiven options given rest
      else if options.takesSource && (argument == "--eval" || argument == "-e") then
        match rest with
        | [] => none
        | source :: rest =>
            if isOption source then none
            else (given.withSource? source).bind fun given => readGiven options given rest
      else if isOption argument then
        if options.takesSource then
          ((attachedSource? argument).bind given.withSource?).bind fun given =>
            readGiven options given rest
        else none
      else (given.withFile? argument).bind fun given => readGiven options given rest

/-- The arguments of a command that reads a file and can write JSON. -/
def readFileCommand (command : String → Bool → Command) (arguments : List String) :
    Option Request :=
  match readGiven ⟨"--json", false⟩ .nothing arguments with
  | some (.inl request) => some request
  | some (.inr given) => given.file.map fun file => .command (command file given.switch)
  | none => none

/-- The arguments of the command that runs a program: a file or a program text, not both. -/
def readRunCommand (arguments : List String) : Option Request :=
  match readGiven ⟨"--dump-vars", true⟩ .nothing arguments with
  | some (.inl request) => some request
  | some (.inr given) =>
      if given.file.isSome = given.source.isSome then none
      else some (.command (.run given.file given.source given.switch))
  | none => none

/-- The request that a row of arguments makes, if it makes sense. -/
def readArguments : List String → Option Request
  | [] => none
  | "tokenize" :: rest => readFileCommand .tokenize rest
  | "parse" :: rest => readFileCommand .parse rest
  | "run" :: rest => readRunCommand rest
  | ["help"] => some .help
  | ["help", topic] =>
      if ["tokenize", "parse", "run", "help"].contains topic then some .help else none
  | first :: _ =>
      if first = "--version" ∨ (withoutStart? "-V" first).isSome then some .version
      else if asksForHelp first then some .help
      else none

/-- The name and the version of the program. -/
def versionText : String := "kiss 0.2.0\n"

/-- How the program is called. -/
def usageText : String :=
  "Usage: kiss tokenize FILE [--json]\n" ++
  "       kiss parse FILE [--json]\n" ++
  "       kiss run (FILE | --eval SOURCE) [--dump-vars]\n" ++
  "       kiss --version\n"

/-- The answer to arguments that make no sense. -/
def usageError : Answer := ⟨2, ByteArray.empty, usageText⟩

/-- The command that a row of arguments makes, or the answer to arguments that make none. -/
def readCommand (arguments : List String) : Except Answer Command :=
  match readArguments arguments with
  | none => .error usageError
  | some .version => .error (.success versionText)
  | some .help => .error (.success usageText)
  | some (.command command) => .ok command

end Kiss.CommandLine
