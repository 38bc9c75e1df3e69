import DecoratorLint.Config.Settings
import DecoratorLint.Lint
import DecoratorLint.SourceLines
import DecoratorLint.Text.Decimal
import DecoratorLint.Text.Quoted

/-!
# Notices

What a run tells about itself while it goes on.  Warnings are always shown,
everything else only on request.
-/

namespace DecoratorLint

/-- Something that a run tells about itself. -/
inductive Notice where
  | loadingConfig (path : String)
  | excluding (exclusion : Exclusion)
  | ruleDisabled (id : String)
  | ruleWithoutTarget (id : String)
  | activeRule (id description : String)
  | missingPath (path : String)
  | filesFound (count : Nat)
  | unreadableFile (path : String) (cause : ReadError)
  | unparsableFile (path : String)
  | skippedFile (path : String)
  /-- A file of which a line was to be shown can no longer be read. -/
  | unreadableLines (path : String) (cause : ReadError)
deriving Repr, DecidableEq

namespace Notice

/-- Whether a notice is a warning. -/
def isWarning : Notice → Bool
  | .missingPath _ => true
  | .unreadableFile _ _ => true
  | .unparsableFile _ => true
  | _ => false

/-- The part of the program that a notice comes from. -/
def origin : Notice → String
  | .loadingConfig _ => "annotation_lint::config"
  | .ruleDisabled _ => "annotation_lint::rules"
  | .ruleWithoutTarget _ => "annotation_lint::rules"
  | .unreadableLines _ _ => "annotation_lint::utils"
  | _ => "annotation_lint"

/-- An exclusion with all it holds. -/
def exclusionText (exclusion : Exclusion) : String :=
  "ExcludePatterns \x7b patterns: " ++ Text.quotedList exclusion.patterns ++
    ", directories: " ++ Text.quotedList exclusion.directories ++ " \x7d"

/-- The words of a notice.  What the parser has to say about a file that it refuses is not
among them. -/
def text : Notice → String
  | .loadingConfig path => "Loading configuration from " ++ path
  | .excluding exclusion => "Exclude patterns: " ++ exclusionText exclusion
  | .ruleDisabled id => "Rule " ++ id ++ " disabled"
  | .ruleWithoutTarget id => "Rule " ++ id ++ " has no annotation configured, skipping"
  | .activeRule id description => "Active rule " ++ id ++ ": " ++ description
  | .missingPath path => "Path does not exist: " ++ path
  | .filesFound count => "Found " ++ Text.showNat count ++ " Python files"
  | .unreadableFile path cause => "Failed to read " ++ path ++ ": " ++ cause.message
  | .unparsableFile path => "Failed to parse " ++ path
  | .skippedFile path => "Skipping " ++ path ++ ": file-level noqa"
  | .unreadableLines path cause =>
      "Cannot read " ++ path ++ " for source lines: " ++ cause.message

/-- The word for the level of a notice, with blanks up to a common width. -/
def level (notice : Notice) : String :=
  if notice.isWarning then "WARN " else "DEBUG"

/-- A notice as it is shown; further lines are indented. -/
def render (notice : Notice) : String :=
  "[" ++ notice.level ++ " " ++ notice.origin ++ "] " ++
    Text.replaceAll notice.text "\n" "\n    "

/-! ## The notices of the steps of a run -/

/-- The notices about the rules that are left out of a run. -/
def ofSpecs (specs : List RuleSpec) (disabled : List String) : List Notice :=
  (specs.map Rule.ofSpec).filterMap fun rule =>
    if disabled.contains rule.id then
      some (.ruleDisabled rule.id)
    else if rule.isEnabled then
      none
    else
      some (.ruleWithoutTarget rule.id)

/-- The notice about a rule of a run. -/
def ofRule (rule : Rule) : Notice :=
  .activeRule rule.id rule.description

/-- The notices about paths that lead nowhere. -/
def ofPaths (system : FileSystem) (paths : List String) : List Notice :=
  (paths.filter (!system.pathExists ·)).map .missingPath

/-- The notice about a file that was not checked. -/
def ofReport? (report : FileReport) : Option Notice :=
  match report.outcome with
  | .unreadable cause => some (.unreadableFile report.path cause)
  | .unparsable => some (.unparsableFile report.path)
  | .skipped => some (.skippedFile report.path)
  | .checked _ => none

/-- The notices about files of which lines could not be read. -/
def ofLines (cache : SourceLines) : List Notice :=
  cache.failures.map fun (path, cause) => .unreadableLines path cause

end Notice

end DecoratorLint
