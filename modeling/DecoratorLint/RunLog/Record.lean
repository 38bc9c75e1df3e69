import DecoratorLint.Finding
import DecoratorLint.RunLog.Moment
import DecoratorLint.Text.Truncate

/-!
# Records of runs

What is kept of a run: when it was, how many files it looked at, what it found and
which rules were active.  A violation is kept with the line it stands at, as far
as that can be read and is not blank.
-/

namespace DecoratorLint

/-- A violation in a record. -/
structure LoggedViolation where
  ruleId : String
  path : String
  line : Nat
  severity : Severity
  message : String
  /-- The trimmed and shortened line, if there is anything on it. -/
  sourceLine : Option String
deriving Repr, DecidableEq

/-- The record of one run. -/
structure RunRecord where
  /-- Seconds since the start of 1970. -/
  timestamp : Int
  datetime : String
  filesScanned : Nat
  /-- The number of files that could not be read or parsed. -/
  filesFailed : Nat
  totalViolations : Nat
  errorCount : Nat
  warningCount : Nat
  infoCount : Nat
  violations : List LoggedViolation
  /-- The ids of the active rules. -/
  enabledRules : List String
deriving Repr, DecidableEq

namespace LoggedViolation

/-- The number of characters after which a line is cut. -/
def lineLimit : Nat :=
  200

/-- A line as it is kept; an empty one is not. -/
def shownLine? (line : String) : Option String :=
  if line = "" then none else some (Text.truncated line lineLimit)

/-- A finding as it is kept. -/
def ofFinding (finding : Finding) : LoggedViolation :=
  { ruleId := finding.violation.ruleId
    path := finding.violation.path
    line := finding.violation.line
    severity := finding.violation.severity
    message := finding.violation.message
    sourceLine := shownLine? finding.sourceLine }

end LoggedViolation

namespace RunRecord

/-- The record of a run that ends at a moment. -/
def ofReports (seconds : Int) (system : FileSystem) (reports : List FileReport)
    (enabledRules : List String) : RunRecord :=
  let violations := (findingsOf system reports).1.map LoggedViolation.ofFinding
  { timestamp := seconds
    datetime := Moment.text seconds
    filesScanned := reports.length
    filesFailed := reports.countP (·.error?.isSome)
    totalViolations := violations.length
    errorCount := countOf reports .error
    warningCount := countOf reports .warning
    infoCount := countOf reports .info
    violations
    enabledRules }

end RunRecord

end DecoratorLint
