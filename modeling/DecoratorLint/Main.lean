import DecoratorLint.Command.Run
import Std.Time.DateTime.Timestamp

/-!
# The program

Takes over from the machine what a run looks at, runs, and carries out what the
run has done: it says what the run says and adds to the log file.
-/

namespace DecoratorLint.Machine

/-- The content of a file of the machine; one that cannot be read counts as bytes
that are no text. -/
def contentOf (path : String) : IO Content := do
  try
    return .ofBytes (← IO.FS.readBinFile path).toList
  catch _ =>
    return .binary []

/-- A path of the machine, made absolute.  Without a current folder only absolute paths are
followed. -/
def absolute (path : String) := do
  let folder ← IO.currentDir <|> pure "/"
  return folder / path

/-- The tree below a path of the machine.  Only files that are wanted are read. -/
partial def treeOf (wanted : String → Bool) (path : String) : IO (Option FileTree) := do
  let root ← absolute path
  unless ← root.pathExists do
    return none
  unless ← root.isDir do
    let name := nameOfFile path
    return some (.file (← if wanted name then contentOf path else pure (.text "")))
  let mut entries := []
  for entry in ← root.readDir do
    if let some tree ← treeOf wanted (Path.join path entry.fileName) then
      entries := (entry.fileName, tree) :: entries
  return some (.folder entries)

/-- The place of a path of the machine, without a look at the files on the way. -/
def placeOf (current : List String) (path : String) : List String :=
  let start := if Path.isAbsolute path then [] else current
  (Path.segments path).foldl (fun place segment =>
    if segment = "" || segment = "." then
      place
    else if segment = ".." then
      place.dropLast
    else
      place ++ [segment]) start

/-- Take over the folders on the way to a path, without what is in them. -/
def takeOverParents (system : FileSystem) (path : String) : IO FileSystem := do
  let mut result := system
  for above in ((Config.withParents path).drop 1).reverse do
    let place := placeOf system.current above
    if (result.root.at? place).isNone then
      let root ← absolute above
      if ← root.isDir then
        result := result.put place (.folder [])
      else if ← root.pathExists then
        result := result.put place (.file (.text ""))
  return result

/-- Take over what a path of the machine leads to. -/
def takeOver (wanted : String → Bool) (system : FileSystem) (path : String) : IO FileSystem := do
  let result ← takeOverParents system path
  match ← treeOf wanted path with
  | some tree => return result.put (placeOf system.current path) tree
  | none => return result

/-- The place of the current folder, unless it was taken away. -/
def currentPlace? : IO (Option (List String)) := do
  try
    return some (placeOf [] (← IO.currentDir).toString)
  catch _ =>
    return none

/-- Nothing has this place, as every name is more than nothing. -/
def nowhere : List String :=
  [""]

/-- The files that a run looks at. -/
def filesFor (options : Options) : IO FileSystem := do
  let current? ← currentPlace?
  let mut system : FileSystem := { current := current?.getD nowhere }
  if let some current := current? then
    system := system.put current (.folder [])
  let leads path := current?.isSome || Path.isAbsolute path
  for path in options.paths.filter leads do
    system ← takeOver isSourceName system path
  for folder in Config.withParents system.currentPath do
    system ← takeOver (fun _ => true) system (Path.join folder Config.fileName)
  for path in (options.config.toList ++ options.logFile.toList).filter leads do
    system ← takeOver (fun _ => true) system path
  return system

/-- The bytes of the file at a path, if there is one. -/
def bytesAt? (system : FileSystem) (path : String) : Option (List UInt8) :=
  match system.find path with
  | .ok (.file content) => some content.bytes
  | _ => none

/-- Add to the log file what a run has added to it. -/
def updateLog (path : String) (before after : FileSystem) : IO Unit := do
  let old := (bytesAt? before path).getD []
  let new := (bytesAt? after path).getD []
  if new.length > old.length then
    if let some parent := Path.parent? path then
      unless parent = "" do
        IO.FS.createDirAll parent
    let handle ← IO.FS.Handle.mk path .append
    handle.write ⟨(new.drop old.length).toArray⟩

/-- What the surroundings say about colours. -/
def colourWishes : IO ColourWishes := do
  return {
    force := ← IO.getEnv "CLICOLOR_FORCE"
    refuse := ← IO.getEnv "NO_COLOR"
    allow := ← IO.getEnv "CLICOLOR"
    terminal := ← (← IO.getStdout).isTty }

/-- Carry out a run and tell its exit status. -/
def carryOut (options : Options) : IO Nat := do
  let before ← filesFor options
  let coloured := (← colourWishes).coloured
  let seconds := (← Std.Time.Timestamp.now).toSecondsSinceUnixEpoch.val
  let outcome := run seconds coloured options before
  try
    if let some path := options.logFile then
      updateLog path before outcome.system
  catch problem =>
    IO.eprintln ("error: failed to write log file: " ++ toString problem)
    return 2
  IO.eprint (linesText (outcome.errorLines options.verbose coloured))
  IO.print (linesText outcome.outputLines)
  return outcome.ending.status

/-- Do what a command line asks for and tell the exit status. -/
def answer (arguments : List String) : IO Nat := do
  match Request.ofArguments arguments with
  | .error mistake =>
      IO.eprint (linesText ["error: " ++ mistake.message, "", Request.usageLine, "",
        "For more information, try '--help'."])
      return 2
  | .ok .version =>
      IO.println Request.versionText
      return 0
  | .ok .help =>
      IO.print (linesText Request.helpLines)
      return 0
  | .ok (.run options) => carryOut options

end DecoratorLint.Machine

/-- The program. -/
def main (arguments : List String) : IO UInt32 := do
  return (← DecoratorLint.Machine.answer arguments).toUInt32
