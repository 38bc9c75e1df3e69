import DecoratorLint.Files.FileSystem
import DecoratorLint.RunLog.Line

/-!
# Log files

A log file has one line for each run.  It is opened once and then only grows at
its end.  A file that is taken away while it is open stays open, but nobody sees
what is added to it.
-/

namespace DecoratorLint

/-- A log file that has been opened. -/
structure LogFile where
  /-- The path as it was given. -/
  path : String
  /-- Where the file is, unless it was taken away. -/
  place : Option (List String)
deriving Repr, DecidableEq

namespace LogFile

/-- The folders of a path that are still to be made. -/
def makeParent (system : FileSystem) (path : String) : Except FileError FileSystem :=
  match Path.parent? path with
  | none => .ok system
  | some parent =>
      if parent = "" || system.pathExists parent then
        .ok system
      else
        system.makeFolders parent

/-- Open a log file, making it and the folders above it if they are missing. -/
def openAt (system : FileSystem) (path : String) : Except FileError (FileSystem × LogFile) := do
  let prepared ← makeParent system path
  let (opened, place) ← prepared.openForAppend path
  return (opened, { path, place := some place })

/-- The files after a log file could not be opened: folders that were made for it
stay. -/
def afterRefusal (system : FileSystem) (path : String) : FileSystem :=
  match makeParent system path with
  | .ok prepared => prepared
  | .error _ => system

/-- Add the line of a record. -/
def append (file : LogFile) (system : FileSystem) (record : RunRecord) : FileSystem :=
  match file.place with
  | some place => system.appendAt place (record.line ++ "\n")
  | none => system

/-- Add the line of a record if there is room for it. -/
def write (file : LogFile) (system : FileSystem) (record : RunRecord) :
    Except FileError FileSystem :=
  if system.full then .error .noSpace else .ok (file.append system record)

/-- A log file after something was taken away. -/
def afterRemoval (file : LogFile) (system : FileSystem) : LogFile :=
  match file.place with
  | none => file
  | some place =>
      match system.root.at? place with
      | some (.file _) => file
      | _ => { file with place := none }

end LogFile

end DecoratorLint
