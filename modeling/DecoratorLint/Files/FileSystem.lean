import DecoratorLint.Files.Path
import DecoratorLint.Files.Tree

/-!
# File systems

A file tree with a current folder, and what programs do with it: find out what a
path leads to, read a file, make folders, add to a file.  Every failure has a
cause, and each cause has one message.
-/

namespace DecoratorLint

/-- Why a path could not be used. -/
inductive FileError where
  | notFound
  | alreadyExists
  | notFolder
  | isFolder
  | noSpace
deriving Repr, DecidableEq

/-- The message for a cause. -/
def FileError.message : FileError → String
  | .notFound => "No such file or directory (os error 2)"
  | .alreadyExists => "File exists (os error 17)"
  | .notFolder => "Not a directory (os error 20)"
  | .isFolder => "Is a directory (os error 21)"
  | .noSpace => "No space left on device (os error 28)"

/-- Why a file could not be read as text. -/
inductive ReadError where
  | file (cause : FileError)
  /-- The bytes of the file are not UTF-8. -/
  | notText
deriving Repr, DecidableEq

/-- The message for a cause. -/
def ReadError.message : ReadError → String
  | .file cause => cause.message
  | .notText => "stream did not contain valid UTF-8"

/-- A file tree and the place of the current folder in it.  A current folder that is not in
the tree has been taken away; relative paths then lead nowhere. -/
structure FileSystem where
  root : FileTree := .folder []
  current : List String := []
  /-- Whether there is no room for more bytes in files. -/
  full : Bool := false
deriving Repr

namespace FileSystem

/-- The place one segment further.  Only from a folder can one go on. -/
def enter (system : FileSystem) (place : List String) (segment : String) :
    Except FileError (List String) :=
  match system.root.at? place with
  | none => .error .notFound
  | some (.file _) => .error .notFolder
  | some (.folder entries) =>
      if segment = "" || segment = "." then
        .ok place
      else if segment = ".." then
        .ok place.dropLast
      else if (entries.lookup segment).isSome then
        .ok (place ++ [segment])
      else
        .error .notFound

/-- The place from which a path is followed. -/
def origin (system : FileSystem) (path : String) : List String :=
  if Path.isAbsolute path then [] else system.current

/-- The place that a path leads to. -/
def locate (system : FileSystem) (path : String) : Except FileError (List String) :=
  if path = "" then
    .error .notFound
  else
    (Path.segments path).foldlM system.enter (system.origin path)

/-- The file or folder that a path leads to. -/
def find (system : FileSystem) (path : String) : Except FileError FileTree := do
  let place ← system.locate path
  match system.root.at? place with
  | some tree => .ok tree
  | none => .error .notFound

/-- Whether a path leads anywhere. -/
def pathExists (system : FileSystem) (path : String) : Bool :=
  match system.find path with
  | .ok _ => true
  | .error _ => false

/-- Whether a path leads to a file. -/
def isFile (system : FileSystem) (path : String) : Bool :=
  match system.find path with
  | .ok (.file _) => true
  | _ => false

/-- The text of a file. -/
def read (system : FileSystem) (path : String) : Except ReadError String :=
  match system.find path with
  | .error cause => .error (.file cause)
  | .ok (.folder _) => .error (.file .isFolder)
  | .ok (.file (.binary _)) => .error .notText
  | .ok (.file (.text value)) => .ok value

/-- The absolute path of the current folder. -/
def currentPath (system : FileSystem) : String :=
  Path.ofNames system.current

/-- The absolute path of the current folder, as long as this folder is in the tree. -/
def findCurrent (system : FileSystem) : Except FileError String :=
  match system.root.at? system.current with
  | some (.folder _) => .ok system.currentPath
  | _ => .error .notFound

theorem findCurrent_of_present {system : FileSystem}
    (present : ∃ entries, system.root.at? system.current = some (.folder entries)) :
    system.findCurrent = .ok system.currentPath := by
  obtain ⟨entries, found⟩ := present
  rw [findCurrent, found]

theorem findCurrent_of_lost {system : FileSystem}
    (lost : ∀ entries, system.root.at? system.current ≠ some (.folder entries)) :
    system.findCurrent = .error .notFound := by
  rw [findCurrent]
  split
  · rename_i entries found
    exact absurd found (lost entries)
  · rfl

/-! ## Changes -/

/-- Put a tree at a place. -/
def put (system : FileSystem) (place : List String) (tree : FileTree) : FileSystem :=
  { system with root := system.root.put tree place }

/-- Where the last segment of a path would be made: the folder it lies in, its
name, and whether a slash follows the name. -/
def destination (system : FileSystem) (path : String) :
    Except FileError (List String × String × Bool) := do
  let reversed := (Path.segments path).reverse
  match reversed.dropWhile (· = "") with
  | [] => if path = "" then .error .notFound else .ok ([], ".", true)
  | last :: before =>
      let place ← before.reverse.foldlM system.enter (system.origin path)
      match system.root.at? place with
      | some (.folder _) => .ok (place, last, reversed.head? = some "")
      | some (.file _) => .error .notFolder
      | none => .error .notFound

/-- Whether a name stands for a folder that is always there. -/
def isDots (name : String) : Bool :=
  name = "." || name = ".."

/-- Make one folder. -/
def makeFolder (system : FileSystem) (path : String) : Except FileError FileSystem := do
  let (place, name, _) ← system.destination path
  if isDots name || (system.root.at? (place ++ [name])).isSome then
    .error .alreadyExists
  else
    .ok (system.put (place ++ [name]) (.folder []))

/-- Whether a path leads to a folder. -/
def isFolder (system : FileSystem) (path : String) : Bool :=
  match system.find path with
  | .ok (.folder _) => true
  | _ => false

/-- Make a folder and the folders above it that are missing.  The counter bounds
the number of folders above. -/
def makeFoldersUpTo : Nat → FileSystem → String → Except FileError FileSystem
  | 0, _, _ => .error .notFound
  | fuel + 1, system, path =>
      if path = "" then
        .ok system
      else
        let orExisting (system : FileSystem) (cause : FileError) :
            Except FileError FileSystem :=
          if system.isFolder path then .ok system else .error cause
        match system.makeFolder path with
        | .ok made => .ok made
        | .error .notFound =>
            match Path.parent? path with
            | none => .error .notFound
            | some above => do
                let made ← makeFoldersUpTo fuel system above
                match made.makeFolder path with
                | .ok done => .ok done
                | .error cause => orExisting made cause
        | .error cause => orExisting system cause

/-- Make a folder and the folders above it that are missing. -/
def makeFolders (system : FileSystem) (path : String) : Except FileError FileSystem :=
  makeFoldersUpTo (path.length + 1) system path

/-- Open a file for adding to its end, making it if it is missing.  The result
holds the place of the file. -/
def openForAppend (system : FileSystem) (path : String) :
    Except FileError (FileSystem × List String) := do
  let (place, name, endsWithSlash) ← system.destination path
  if endsWithSlash || isDots name then
    .error .isFolder
  else
    let target := place ++ [name]
    match system.root.at? target with
    | some (.folder _) => .error .isFolder
    | some (.file _) => .ok (system, target)
    | none => .ok (system.put target (.file (.text "")), target)

/-- Add a text to the end of the file at a place; without a file there nothing
happens. -/
def appendAt (system : FileSystem) (place : List String) (more : String) : FileSystem :=
  match system.root.at? place with
  | some (.file content) => system.put place (.file (content.append more))
  | _ => system

/-- Take away the file or folder that a path leads to. -/
def remove (system : FileSystem) (path : String) : Except FileError FileSystem := do
  let place ← system.locate path
  .ok { system with root := system.root.erase place }

/-- Put a tree at a path, making the folders above it. -/
def install (system : FileSystem) (path : String) (tree : FileTree) :
    Except FileError FileSystem := do
  let above := (Path.parent? path).getD ""
  let made ← system.makeFolders above
  let (place, name, _) ← made.destination path
  .ok (made.put (place ++ [name]) tree)

end FileSystem

end DecoratorLint
