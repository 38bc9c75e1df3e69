import DecoratorLint.Rule.Spec

/-!
# Options of a run

What the command line says.  Options can stand anywhere among the paths, and
arguments are read from left to right: the first mistake, or the first question
about the program itself, decides.  A double dash ends the options.
-/

namespace DecoratorLint

/-- How a report is written. -/
inductive ReportFormat where
  | text
  | json
deriving Repr, DecidableEq

/-- The report format that a word stands for. -/
def ReportFormat.ofWord? : String → Option ReportFormat
  | "text" => some .text
  | "json" => some .json
  | _ => none

/-- What a run is asked to do. -/
structure Options where
  paths : List String := ["."]
  require : List RuleSpec := []
  disable : List String := []
  exclude : List String := []
  format : ReportFormat := .text
  /-- The configuration file that is named. -/
  config : Option String := none
  /-- Whether configuration files are ignored. -/
  noConfig : Bool := false
  logFile : Option String := none
  verbose : Bool := false
deriving Repr, DecidableEq

/-- What a command line asks for. -/
inductive Request where
  | run (options : Options)
  | version
  | help
deriving Repr, DecidableEq

/-- What is wrong with a command line. -/
inductive UsageError where
  | unknown (argument : String)
  | missingValue (option : String)
  | unexpectedValue (option value : String)
  | invalidValue (option value : String)
  | repeated (option : String)
  | conflict (option other : String)
deriving Repr, DecidableEq

/-- The message for a mistake. -/
def UsageError.message : UsageError → String
  | .unknown argument => "unexpected argument '" ++ argument ++ "' found"
  | .missingValue option => "a value is required for '" ++ option ++ "' but none was supplied"
  | .unexpectedValue option value =>
      "unexpected value '" ++ value ++ "' for '" ++ option ++ "' found; no more were expected"
  | .invalidValue option value => "invalid value '" ++ value ++ "' for '" ++ option ++ "'"
  | .repeated option => "the argument '" ++ option ++ "' cannot be used multiple times"
  | .conflict option other =>
      "the argument '" ++ option ++ "' cannot be used with '" ++ other ++ "'"

namespace CommandLine

/-! ## The options there are -/

/-- The options that take a value. -/
inductive Setting where
  | require
  | disable
  | exclude
  | outputFormat
  | config
  | logFile
deriving Repr, DecidableEq

/-- The options that take no value. -/
inductive Switch where
  | noConfig
  | verbose
  | version
  | help
deriving Repr, DecidableEq

/-- How a setting is written. -/
def Setting.word : Setting → String
  | .require => "--require"
  | .disable => "--disable"
  | .exclude => "--exclude"
  | .outputFormat => "--output-format"
  | .config => "--config"
  | .logFile => "--log-file"

/-- How a switch is written. -/
def Switch.word : Switch → String
  | .noConfig => "--no-config"
  | .verbose => "--verbose"
  | .version => "--version"
  | .help => "--help"

/-- The setting that is written so. -/
def Setting.ofWord? (word : String) : Option Setting :=
  [Setting.require, .disable, .exclude, .outputFormat, .config, .logFile].find? (·.word = word)

/-- The switch that is written so. -/
def Switch.ofWord? (word : String) : Option Switch :=
  [Switch.noConfig, .verbose, .version, .help].find? (·.word = word)

/-- The switch of a single letter. -/
def Switch.ofLetter? : Char → Option Switch
  | 'v' => some .verbose
  | 'V' => some .version
  | 'h' => some .help
  | _ => none

/-! ## What has been read -/

/-- What the arguments up to some point say. -/
structure Draft where
  paths : List String := []
  require : List RuleSpec := []
  disable : List String := []
  exclude : List String := []
  format : Option ReportFormat := none
  config : Option String := none
  noConfig : Bool := false
  logFile : Option String := none
  verbose : Bool := false

namespace Draft

/-- A value that can be given once, and not empty. -/
def single (setting : Setting) (before : Option String) (value : String) :
    Except UsageError (Option String) :=
  if value = "" then
    .error (.invalidValue setting.word value)
  else if before.isSome then
    .error (.repeated setting.word)
  else
    .ok (some value)

/-- Take the value of a setting. -/
def set (draft : Draft) (setting : Setting) (value : String) : Except UsageError Draft :=
  match setting with
  | .require =>
      match RuleSpec.ofText? value with
      | some spec => .ok { draft with require := draft.require ++ [spec] }
      | none => .error (.invalidValue setting.word value)
  | .disable => .ok { draft with disable := draft.disable ++ Text.splitAt ',' value }
  | .exclude => .ok { draft with exclude := draft.exclude ++ Text.splitAt ',' value }
  | .outputFormat =>
      match ReportFormat.ofWord? value with
      | none => .error (.invalidValue setting.word value)
      | some format =>
          if draft.format.isSome then
            .error (.repeated setting.word)
          else
            .ok { draft with format := some format }
  | .config => (single setting draft.config value).map ({ draft with config := · })
  | .logFile => (single setting draft.logFile value).map ({ draft with logFile := · })

/-- Turn a switch.  A question about the program is answered at once. -/
def turn (draft : Draft) : Switch → Except UsageError (Draft ⊕ Request)
  | .noConfig =>
      if draft.noConfig then
        .error (.repeated Switch.noConfig.word)
      else
        .ok (.inl { draft with noConfig := true })
  | .verbose =>
      if draft.verbose then
        .error (.repeated Switch.verbose.word)
      else
        .ok (.inl { draft with verbose := true })
  | .version => .ok (.inr .version)
  | .help => .ok (.inr .help)

/-- Turn the switches of a group of letters. -/
def turnAll (draft : Draft) (argument : String) :
    List Char → Except UsageError (Draft ⊕ Request)
  | [] => .ok (.inl draft)
  | letter :: rest =>
      match Switch.ofLetter? letter with
      | none => .error (.unknown argument)
      | some switch =>
          match draft.turn switch with
          | .ok (.inl turned) => turned.turnAll argument rest
          | other => other

/-- The request at the end of the arguments.  Without paths the current folder is
meant. -/
def finish (draft : Draft) : Except UsageError Request :=
  if draft.config.isSome && draft.noConfig then
    .error (.conflict Setting.config.word Switch.noConfig.word)
  else
    .ok <| .run
      { paths := if draft.paths.isEmpty then ["."] else draft.paths
        require := draft.require
        disable := draft.disable
        exclude := draft.exclude
        format := draft.format.getD .text
        config := draft.config
        noConfig := draft.noConfig
        logFile := draft.logFile
        verbose := draft.verbose }

end Draft

/-! ## Reading -/

/-- Whether an argument looks like an option.  A single dash does not. -/
def isOption (argument : String) : Bool :=
  match argument.toList with
  | '-' :: _ :: _ => true
  | _ => false

/-- The part of an argument before the first equals sign, and the part after it if
there is one. -/
def splitValue (argument : String) : String × Option String :=
  let text := argument.toList
  match text.dropWhile (· ≠ '=') with
  | [] => (argument, none)
  | _ :: value => (String.ofList (text.takeWhile (· ≠ '=')), some (String.ofList value))

/-- Read the arguments that are left. -/
def readFrom (draft : Draft) : List String → Except UsageError Request
  | [] => draft.finish
  | argument :: rest =>
      if argument = "--" then
        { draft with paths := draft.paths ++ rest }.finish
      else
        match argument.toList with
        | '-' :: '-' :: _ =>
            let (word, given) := splitValue argument
            match Setting.ofWord? word, given with
            | some setting, some value =>
                match draft.set setting value with
                | .error mistake => .error mistake
                | .ok changed => readFrom changed rest
            | some setting, none =>
                match rest with
                | [] => .error (.missingValue word)
                | value :: more =>
                    if isOption value then
                      .error (.missingValue word)
                    else
                      match draft.set setting value with
                      | .error mistake => .error mistake
                      | .ok changed => readFrom changed more
            | none, given =>
                match Switch.ofWord? word, given with
                | none, _ => .error (.unknown argument)
                | some _, some value => .error (.unexpectedValue word value)
                | some switch, none =>
                    match draft.turn switch with
                    | .error mistake => .error mistake
                    | .ok (.inr request) => .ok request
                    | .ok (.inl turned) => readFrom turned rest
        | '-' :: letter :: letters =>
            match draft.turnAll argument (letter :: letters) with
            | .error mistake => .error mistake
            | .ok (.inr request) => .ok request
            | .ok (.inl turned) => readFrom turned rest
        | _ => readFrom { draft with paths := draft.paths ++ [argument] } rest

end CommandLine

namespace Request

/-- What a command line asks for, given its arguments. -/
def ofArguments (arguments : List String) : Except UsageError Request :=
  CommandLine.readFrom {} arguments

/-- The name and the version of the program. -/
def versionText : String :=
  "annotation-lint 0.1.0"

/-- How the program is called. -/
def usageLine : String :=
  "Usage: annotation-lint [OPTIONS] [PATHS]..."

/-- What the program says about its use. -/
def helpLines : List String :=
  ["Flag Python decorators that are missing required keyword parameters",
    "",
    usageLine,
    "",
    "Arguments:",
    "  [PATHS]...  Files or directories to lint [default: .]",
    "",
    "Options:",
    "      --require <NAME=PARAMS>          Require parameters on a decorator: " ++
      "NAME=param1,param2 (repeatable)",
    "      --disable <DISABLE>              Disable rule ids (comma-separated)",
    "      --exclude <EXCLUDE>              Exclude paths matching patterns",
    "      --output-format <OUTPUT_FORMAT>  Output format [default: text] " ++
      "[possible values: text, json]",
    "      --config <CONFIG>                Read configuration from this file " ++
      "instead of the nearest pyproject.toml",
    "      --no-config                      Ignore pyproject.toml configuration",
    "      --log-file <LOG_FILE>            Append a JSON Lines record of this run to a file",
    "  -v, --verbose                        Show verbose output",
    "  -h, --help                           Print help",
    "  -V, --version                        Print version"]

end Request

end DecoratorLint
