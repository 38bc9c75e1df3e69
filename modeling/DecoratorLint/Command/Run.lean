import DecoratorLint.Command.Notice
import DecoratorLint.Command.Options
import DecoratorLint.Config.Load
import DecoratorLint.Report.Document
import DecoratorLint.RunLog.LogFile

/-!
# Runs

A run loads its configuration, chooses its rules, collects and checks files, adds
a line to the log and writes a report.  It ends early when there is nothing to do.
What a run does to the files and what it says are values, so that a run can be
looked at as a whole.
-/

namespace DecoratorLint

/-- Why a run failed. -/
inductive RunError where
  | config (cause : ConfigError)
  /-- The log file could not be opened. -/
  | logFile (path : String) (cause : FileError)
  /-- The log file was opened, but nothing could be added to it. -/
  | logLine (path : String) (cause : FileError)
deriving Repr, DecidableEq

/-- The message for a cause, with the causes behind it. -/
def RunError.message : RunError → String
  | .config cause =>
      "failed to load configuration: " ++ cause.message ++
        match cause with
        | .unreadable _ behind => ": " ++ behind.message
        | _ => ""
  | .logFile path cause => "failed to open log file " ++ path ++ ": " ++ cause.message
  | .logLine path cause => "failed to write log file " ++ path ++ ": " ++ cause.message

/-- How a run ended. -/
inductive Ending where
  /-- Without violations that are errors. -/
  | passed
  /-- With violations that are errors. -/
  | violated
  | failed (cause : RunError)
deriving Repr, DecidableEq

/-- The exit status of a run. -/
def Ending.status : Ending → Nat
  | .passed => 0
  | .violated => 1
  | .failed _ => 2

/-- Something that a run says. -/
inductive Message where
  | notice (notice : Notice)
  /-- A line of the report. -/
  | report (line : String)
  /-- A line beside the report. -/
  | remark (line : String)
deriving Repr, DecidableEq

/-- A run: what it said, how it ended, and the files after it. -/
structure Run where
  messages : List Message
  ending : Ending
  system : FileSystem

namespace Options

/-- The configuration of a run. -/
def loadConfig (options : Options) (system : FileSystem) : Except ConfigError (Option Config) :=
  if options.noConfig then .ok none else Config.load system options.config

/-- The notice about the file from which the configuration comes. -/
def configNotices (options : Options) (system : FileSystem) : List Notice :=
  if options.noConfig then
    []
  else
    match Config.loadPath system options.config with
    | .ok (some path) => [.loadingConfig path]
    | _ => []

/-- The settings of a run. -/
def settings (options : Options) (config : Option Config) : Settings :=
  Settings.merge config options.require options.disable options.exclude

end Options

namespace Run

/-- What is said when no rule is active. -/
def noRules : String :=
  "No decorators configured. Add [[tool.annotation-lint.required]] to pyproject.toml " ++
    "or pass --require NAME=PARAMS"

/-- What is said when there is no file to check. -/
def noFiles : String :=
  "No Python files found"

/-- The notices about the settings and the rules of a run. -/
def ruleNotices (settings : Settings) (rules : List Rule) : List Notice :=
  .excluding settings.exclusion ::
    (Notice.ofSpecs settings.required settings.disable ++ rules.map Notice.ofRule)

/-- Add the record of a run to the log file that is asked for.  The result is what
was said about it, or why it failed, and the files after it. -/
def writeLog (moment : Int) (options : Options) (rules : List Rule)
    (reports : List FileReport) (system : FileSystem) :
    Except RunError (List Notice) × FileSystem :=
  match options.logFile with
  | none => (.ok [], system)
  | some path =>
      match LogFile.openAt system path with
      | .error cause => (.error (.logFile path cause), LogFile.afterRefusal system path)
      | .ok (opened, file) =>
          let record := RunRecord.ofReports moment system reports (ruleIds rules)
          match file.write opened record with
          | .error cause => (.error (.logLine path cause), opened)
          | .ok written => (.ok (Notice.ofLines (findingsOf system reports).2), written)

/-- The report of a run. -/
def report (coloured : Bool) (format : ReportFormat) (system : FileSystem)
    (reports : List FileReport) : List Message :=
  let (findings, read) := findingsOf system reports
  let groups := RuleGroup.ofFindings findings
  let notices := (Notice.ofLines read).map Message.notice
  match format with
  | .text =>
      (Report.failureLines coloured reports).map .remark ++ notices ++
        (Report.listing coloured groups).map .report
  | .json =>
      notices ++ [.report (String.ofList ((Report.document groups reports).pretty 0))]

/-- The last words of a run, after an empty line. -/
def summary (verbose : Bool) (reports : List FileReport) : List Message :=
  let errors := countOf reports .error
  let warnings := countOf reports .warning
  let infos := countOf reports .info
  let total := errors + warnings + infos
  if total > 0 then
    [.remark "", .remark <|
      "Found " ++ Text.showNat total ++ " issue(s): " ++ Text.showNat errors ++ " error(s), " ++
        Text.showNat warnings ++ " warning(s), " ++ Text.showNat infos ++ " info"]
  else if verbose then
    [.remark "", .remark "No issues found."]
  else
    []

/-- How a run ends that has checked its files. -/
def endingOf (reports : List FileReport) : Ending :=
  if countOf reports .error > 0 then .violated else .passed

/-- Check the files of a run and tell about them. -/
def check (moment : Int) (coloured : Bool) (options : Options) (rules : List Rule)
    (files : List String) (system : FileSystem) : Run :=
  let reports := lintFiles system rules files
  let checking := (reports.filterMap Notice.ofReport?).map Message.notice
  match writeLog moment options rules reports system with
  | (.error cause, left) =>
      { messages :=
          checking ++ (Notice.ofLines (findingsOf system reports).2).map Message.notice
        ending := .failed cause
        system := left }
  | (.ok logging, logged) =>
      { messages :=
          checking ++ logging.map .notice ++
            report coloured options.format logged reports ++ summary options.verbose reports
        ending := endingOf reports
        system := logged }

/-- Run with the rules and settings that a configuration gives. -/
def withConfig (moment : Int) (coloured : Bool) (options : Options) (config : Option Config)
    (system : FileSystem) : Run :=
  let settings := options.settings config
  let rules := activeRules settings.required settings.disable
  let choosing := (ruleNotices settings rules).map Message.notice
  if rules.isEmpty then
    { messages := choosing ++ [.remark noRules], ending := .passed, system }
  else
    let files := system.sourceFiles settings.exclusion options.paths
    let collecting :=
      choosing ++ (Notice.ofPaths system options.paths).map .notice ++
        [.notice (.filesFound files.length)]
    if files.isEmpty then
      { messages := collecting ++ [.remark noFiles], ending := .passed, system }
    else
      let checked := check moment coloured options rules files system
      { checked with messages := collecting ++ checked.messages }

end Run

/-- A run at a moment, given in seconds since the start of 1970. -/
def run (moment : Int) (coloured : Bool) (options : Options) (system : FileSystem) : Run :=
  let loading := (options.configNotices system).map Message.notice
  match options.loadConfig system with
  | .error cause => { messages := loading, ending := .failed (.config cause), system }
  | .ok config =>
      let rest := Run.withConfig moment coloured options config system
      { rest with messages := loading ++ rest.messages }

/-! ## What is shown of a run -/

namespace Run

/-- The lines that go to the standard output. -/
def outputLines (run : Run) : List String :=
  run.messages.filterMap fun message =>
    match message with
    | .report line => some line
    | _ => none

/-- The line about a failure. -/
def failureLine (coloured : Bool) (cause : RunError) : String :=
  Style.boldRed.paint coloured "error" ++ ": " ++ cause.message

/-- The lines that go to the standard error stream: warnings and, when a run is
verbose, all notices; remarks; and in the end the cause of a failure. -/
def errorLines (run : Run) (verbose coloured : Bool) : List String :=
  (run.messages.filterMap fun message =>
    match message with
    | .notice notice => if verbose || notice.isWarning then some notice.render else none
    | .remark line => some line
    | .report _ => none) ++
    match run.ending with
    | .failed cause => [failureLine coloured cause]
    | _ => []

end Run

/-- Lines with their ends. -/
def linesText (lines : List String) : String :=
  String.join (lines.map (· ++ "\n"))

end DecoratorLint
