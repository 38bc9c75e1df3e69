import DecoratorLint.Json.Fields
import DecoratorLint.Json.Reader
import DecoratorLint.Json.Writer
import DecoratorLint.RunLog.Record

/-!
# Records as lines

A record is kept as one line of JSON.  The fields are written in a fixed order and
without spaces, and a missing source line is left out.  Reading is more liberal:
it takes fields in any order, ignores fields it does not know, and takes an array
of all values in place of an object.  Numbers have to fit into 64 bits.
-/

namespace DecoratorLint

namespace Severity

/-- The value that stands for a severity. -/
def toJson (severity : Severity) : Json :=
  .ofString severity.word

/-- The severity of a value: its word, or an object with the word as its only
name and nothing as the value. -/
def ofJson? : Json → Option Severity
  | .string text => text.bind ofWord?
  | .object [(name, .null)] => name.bind ofWord?
  | _ => none

/-- A severity is read back from its value. -/
@[simp]
theorem ofJson?_toJson (severity : Severity) : ofJson? severity.toJson = some severity := by
  simp [toJson, ofJson?, Json.ofString]

end Severity

namespace LoggedViolation

/-- The names of the fields, in the order in which they are written. -/
def fieldNames : List String :=
  ["rule_id", "file_path", "line", "severity", "message", "source_line"]

/-- The value of a violation.  Without a source line there is no member for it. -/
def toJson (violation : LoggedViolation) : Json :=
  .ofMembers <|
    [("rule_id", .ofString violation.ruleId),
      ("file_path", .ofString violation.path),
      ("line", .ofNat violation.line),
      ("severity", violation.severity.toJson),
      ("message", .ofString violation.message)] ++
    match violation.sourceLine with
    | some line => [("source_line", .ofString line)]
    | none => []

/-- The source line of a violation, which can be missing or null. -/
def sourceLineOf? : Option Json → Option (Option String)
  | none => some none
  | some .null => some none
  | some value => value.string?.map some

/-- The violation of a value. -/
def ofJson? (value : Json) : Option LoggedViolation := do
  let [some ruleId, some path, some line, some severity, some message, sourceLine] ←
    value.fields? fieldNames | none
  return {
    ruleId := ← ruleId.string?
    path := ← path.string?
    line := ← line.nat64?
    severity := ← Severity.ofJson? severity
    message := ← message.string?
    sourceLine := ← sourceLineOf? sourceLine }

end LoggedViolation

namespace RunRecord

/-- The names of the fields, in the order in which they are written. -/
def fieldNames : List String :=
  ["timestamp", "datetime", "files_scanned", "files_failed", "total_violations",
    "error_count", "warning_count", "info_count", "violations", "enabled_rules"]

/-- The value of a record. -/
def toJson (record : RunRecord) : Json :=
  .ofMembers
    [("timestamp", .ofInt record.timestamp),
      ("datetime", .ofString record.datetime),
      ("files_scanned", .ofNat record.filesScanned),
      ("files_failed", .ofNat record.filesFailed),
      ("total_violations", .ofNat record.totalViolations),
      ("error_count", .ofNat record.errorCount),
      ("warning_count", .ofNat record.warningCount),
      ("info_count", .ofNat record.infoCount),
      ("violations", .array (record.violations.map LoggedViolation.toJson)),
      ("enabled_rules", .array (record.enabledRules.map Json.ofString))]

/-- The record of a value. -/
def ofJson? (value : Json) : Option RunRecord := do
  let [some timestamp, some datetime, some filesScanned, some filesFailed,
      some totalViolations, some errorCount, some warningCount, some infoCount,
      some violations, some enabledRules] ← value.fields? fieldNames | none
  return {
    timestamp := ← timestamp.int64?
    datetime := ← datetime.string?
    filesScanned := ← filesScanned.nat64?
    filesFailed := ← filesFailed.nat64?
    totalViolations := ← totalViolations.nat64?
    errorCount := ← errorCount.nat64?
    warningCount := ← warningCount.nat64?
    infoCount := ← infoCount.nat64?
    violations := ← (← violations.array?).mapM LoggedViolation.ofJson?
    enabledRules := ← (← enabledRules.array?).mapM Json.string? }

/-- The line of a record, without its end. -/
def line (record : RunRecord) : String :=
  String.ofList record.toJson.compact

/-- The record that a text holds. -/
def ofLine? (text : String) : Option RunRecord :=
  (Json.parse? text.toList).bind ofJson?

end RunRecord

end DecoratorLint
