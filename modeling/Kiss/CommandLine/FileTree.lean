import Kiss.CommandLine.SourceFile

/-!
# Trees of files

A working directory given by what it holds, and what a name stands for in it. A name is a row
of parts; a part in front of another has to be a directory, and so has a name that ends with
a slash or a dot. Above the working directory nothing is known but that there are
directories.
-/

namespace Kiss.CommandLine

/-- A working directory: files by their path from there, and directories that may be empty.
    Every path in front of a listed one is a directory as well. -/
structure FileTree where
  files : List (List String × ByteArray)
  directories : List (List String)

namespace FileTree

/-- What stands at a path below the working directory. -/
def entry (tree : FileTree) (path : List String) : SourceFile :=
  match tree.files.lookup path with
  | some bytes => .file bytes
  | none =>
      let paths := tree.directories ++ tree.files.map (·.1)
      if path.isEmpty || paths.any path.isPrefixOf then .directory else .missing

/-- Follows the parts of a name from the path below the working directory, or from a place
    `above` levels over it. -/
def follow (tree : FileTree) (above : Nat) (path : List String) : List String → SourceFile
  | [] => if above = 0 then tree.entry path else .directory
  | part :: rest =>
      match if above = 0 then tree.entry path else .directory with
      | .directory =>
          if part = "" ∨ part = "." then tree.follow above path rest
          else if part = ".." then
            if path.isEmpty then tree.follow (above + 1) [] rest
            else tree.follow above path.dropLast rest
          else if above = 0 then tree.follow 0 (path ++ [part]) rest
          else .missing
      | .missing => .missing
      | _ => .insideFile

/-- What a name stands for. A name that begins with a slash does not begin in the working
    directory. -/
def find (tree : FileTree) (name : String) : SourceFile :=
  match name.splitOn "/" with
  | [""] => .missing
  | "" :: rest => tree.follow 1 [] rest
  | parts => tree.follow 0 [] parts

end FileTree

end Kiss.CommandLine
