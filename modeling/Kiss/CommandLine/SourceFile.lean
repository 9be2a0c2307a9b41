/-!
# Source files

What stands under the name of a file, and the text that is read from it. A file may be too
large, and its bytes may be no text.
-/

namespace Kiss.CommandLine

/-- What stands under a name. -/
inductive SourceFile where
  | missing
  | insideFile
  | directory
  | file (bytes : ByteArray)

/-- Why no text can be read. -/
inductive FileError where
  | missing
  | insideFile
  | directory
  | notText
  | tooLarge (size : Nat)
  deriving DecidableEq, Repr

/-- The greatest size of a source file, in bytes. -/
def maxSourceSize : Nat := 10 * 1024 * 1024

/-- What is wrong with a file that cannot be read, in the words of the system. -/
def FileError.reason : FileError → String
  | .missing => "No such file or directory (os error 2)"
  | .insideFile => "Not a directory (os error 20)"
  | .directory => "Is a directory (os error 21)"
  | .notText => "stream did not contain valid UTF-8"
  | .tooLarge size =>
      toString size ++ " bytes, max " ++ toString maxSourceSize ++ " bytes"

/-- The wording of an error about the file with the given name. -/
def FileError.message (name : String) (e : FileError) : String :=
  match e with
  | .tooLarge _ => "Error: file " ++ name ++ " is too large (" ++ e.reason ++ ")"
  | _ => "Error: cannot read file " ++ name ++ ": " ++ e.reason

/-- The text of a file. -/
def SourceFile.text : SourceFile → Except FileError String
  | .missing => .error .missing
  | .insideFile => .error .insideFile
  | .directory => .error .directory
  | .file bytes =>
      if maxSourceSize < bytes.size then .error (.tooLarge bytes.size)
      else
        match String.fromUTF8? bytes with
        | some text => .ok text
        | none => .error .notText

end Kiss.CommandLine
