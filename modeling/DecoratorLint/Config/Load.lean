import DecoratorLint.Config.Section
import DecoratorLint.Files.FileSystem
import DecoratorLint.Toml.Document

/-!
# Loading a configuration

A configuration comes from a file that is named, or from the nearest
`pyproject.toml` at or above the current folder that has the section.  Files that
cannot be read, are no documents or lack the section do not stop that search; in
a file that is named they are errors.  Without a current folder there is nowhere
to search, which is an error too.
-/

namespace DecoratorLint

/-- Why no configuration could be loaded. -/
inductive ConfigError where
  | notFound (path : String)
  | unreadable (path : String) (cause : ReadError)
  /-- The file is no document, or its section has the wrong shape. -/
  | invalidDocument (path : String)
  | missingSection (path : String)
  | invalidRuleId (id : String)
  /-- A specification on the command line is malformed. -/
  | invalidRequire (value : String)
deriving Repr, DecidableEq

/-- The message for a cause.  For an invalid document it names the file; what the reader of
documents has to say about its content is not kept. -/
def ConfigError.message : ConfigError → String
  | .notFound path => "config file not found: " ++ path
  | .unreadable path cause => "failed to read " ++ path ++ ": " ++ cause.message
  | .invalidDocument path => "invalid TOML in " ++ path
  | .missingSection path => path ++ " has no [tool.annotation-lint] section"
  | .invalidRuleId id =>
      "invalid rule id '" ++ id ++
        "': expected uppercase letters and digits, starting with a letter"
  | .invalidRequire value =>
      "invalid --require value '" ++ value ++ "': expected NAME=param1,param2"

namespace RuleSpec

/-- Read a specification written `NAME=param1,param2`. -/
def ofText (text : String) : Except ConfigError RuleSpec :=
  match ofText? text with
  | some spec => .ok spec
  | none => .error (.invalidRequire text)

/-- Refuse a specification whose id is not one. -/
def validate (spec : RuleSpec) : Except ConfigError Unit :=
  if spec.hasValidId then .ok () else .error (.invalidRuleId spec.ruleId)

end RuleSpec

namespace Config

/-- The name of the file that is searched for. -/
def fileName : String :=
  "pyproject.toml"

/-! ## Finding a file -/

/-- The configuration section in the file at a path, if the file can be read and
has one. -/
def sectionAt? (system : FileSystem) (path : String) : Option Toml :=
  match system.read path with
  | .error _ => none
  | .ok text => (Toml.parse? text.toList).bind section?

/-- A path and all paths above it, as far as the text of the path goes.  The
counter bounds their number. -/
def withParentsUpTo : Nat → String → List String
  | 0, path => [path]
  | fuel + 1, path =>
      match Path.parent? path with
      | some above => path :: withParentsUpTo fuel above
      | none => [path]

/-- A path and all paths above it, as far as the text of the path goes. -/
def withParents (path : String) : List String :=
  withParentsUpTo (path.length + 1) path

/-- The folders in which a file is searched for, the nearest first: the start,
or the folder of a start that is a file, and what lies above. -/
def searchFolders (system : FileSystem) (start : String) : List String :=
  if system.isFile start then
    match Path.parent? start with
    | some folder => withParents folder
    | none => []
  else
    withParents start

/-- The path of the nearest file with a configuration section. -/
def discover? (system : FileSystem) (start : String) : Option String :=
  ((searchFolders system start).map (Path.join · fileName)).find? fun path =>
    (sectionAt? system path).isSome

/-! ## Reading a file -/

/-- The configuration in a text that came from a path. -/
def ofText (path text : String) : Except ConfigError Config :=
  match Toml.parse? text.toList with
  | none => .error (.invalidDocument path)
  | some document =>
      match section? document with
      | none => .error (.missingSection path)
      | some value =>
          match ofSection? value with
          | none => .error (.invalidDocument path)
          | some config =>
              match config.invalidId? with
              | some id => .error (.invalidRuleId id)
              | none => .ok config

/-- The configuration in a file that is there. -/
def readFrom (system : FileSystem) (path : String) : Except ConfigError Config :=
  match system.read path with
  | .error cause => .error (.unreadable path cause)
  | .ok text => ofText path text

/-- The path from which a configuration is loaded: the one that is named, which
has to exist, or else the one that is found from the current folder, which has to be
there. -/
def loadPath (system : FileSystem) (named : Option String) :
    Except ConfigError (Option String) :=
  match named with
  | some path => if system.pathExists path then .ok (some path) else .error (.notFound path)
  | none =>
      match system.findCurrent with
      | .ok folder => .ok (discover? system folder)
      | .error cause => .error (.unreadable "." (.file cause))

/-- Load the configuration from a file that is named, or from the nearest one
that has the section.  Without a name there may be none. -/
def load (system : FileSystem) (named : Option String) : Except ConfigError (Option Config) := do
  match ← loadPath system named with
  | none => .ok none
  | some path => (readFrom system path).map some

end Config

end DecoratorLint
