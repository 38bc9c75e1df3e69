import DecoratorLint.Files.FileSystem

/-!
# Collecting source files

Which files of a folder are checked: those below it that have the extension
`py`, save what an exclusion takes out.  A folder that is excluded is not
entered.  Exclusions look at names below the given folder only, so that the
place of a project never excludes it.

The entries of a folder come in the order of their names, and the content of a
folder stands where its name stands.
-/

namespace DecoratorLint

/-- What is left out below a folder. -/
structure Exclusion where
  /-- Names, or fragments of names, of files and folders. -/
  patterns : List String := []
  /-- Names of folders and files, whole ones only. -/
  directories : List String := []
deriving Repr, DecidableEq

namespace Exclusion

/-- Whether the entry with these names below a folder is left out: a name among
them is listed, or a pattern occurs in the last of them. -/
def excludes (exclusion : Exclusion) (names : List String) : Bool :=
  exclusion.directories.any names.contains ||
    exclusion.patterns.any fun pattern =>
      names.getLast?.any (Text.contains · pattern) || names.contains pattern

end Exclusion

/-- Whether a file of this name holds source text. -/
def isSourceName (name : String) : Bool :=
  Path.hasExtension "py" name

/-- Put the entries of a folder in the order of their names. -/
def sortByName {α : Type} (entries : List (String × α)) : List (String × α) :=
  entries.mergeSort fun first second => !(second.1 < first.1)

mutual

/-- The source files in a tree, as lists of names that start with `names`, the
names of the tree itself. -/
def FileTree.sourceFiles (exclusion : Exclusion) (names : List String) :
    FileTree → List (List String)
  | .file _ => if names.getLast?.any isSourceName then [names] else []
  | .folder entries =>
      (sortByName (entriesSourceFiles exclusion names entries)).flatMap Prod.snd

/-- The source files of each entry of a folder; an entry that is left out has
none. -/
def entriesSourceFiles (exclusion : Exclusion) (names : List String) :
    List (String × FileTree) → List (String × List (List String))
  | [] => []
  | (name, tree) :: rest =>
      let below := names ++ [name]
      let found := if exclusion.excludes below then [] else tree.sourceFiles exclusion below
      (name, found) :: entriesSourceFiles exclusion names rest

end

/-- The path of a file below a folder, given by its names. -/
def pathBelow (folder : String) (names : List String) : String :=
  names.foldl Path.join folder

/-- The name at the end of the path of a file. -/
def nameOfFile (path : String) : String :=
  (Path.segments path).getLast?.getD ""

namespace FileSystem

/-- The source files that one path stands for: a file stands for itself if its
name is that of a source file, and a folder for the source files in it. -/
def sourceFilesAt (system : FileSystem) (exclusion : Exclusion) (path : String) :
    List String :=
  match system.find path with
  | .ok (.file _) => if isSourceName (nameOfFile path) then [path] else []
  | .ok (.folder entries) =>
      ((FileTree.folder entries).sourceFiles exclusion []).map (pathBelow path)
  | .error _ => []

/-- The source files that paths stand for, in their order. -/
def sourceFiles (system : FileSystem) (exclusion : Exclusion) (paths : List String) :
    List String :=
  paths.flatMap (system.sourceFilesAt exclusion)

end FileSystem

end DecoratorLint
