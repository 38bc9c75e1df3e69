import DecoratorLint.Json.Writer
import DecoratorLint.Report.Listing

/-!
# The report for programs

The same groups of violations as one JSON document, together with the files that
could not be checked.  The members of every object come in the order of their
names.
-/

namespace DecoratorLint.Report

/-- A violation in the document. -/
def findingJson (finding : Finding) : Json :=
  .ofMembers
    [("file", .ofString finding.violation.path),
      ("line", .ofNat finding.violation.line),
      ("message", .ofString finding.violation.message),
      ("severity", .ofString finding.violation.severity.word),
      ("source", .ofString finding.sourceLine)]

/-- A group in the document. -/
def groupJson (group : RuleGroup) : Json :=
  .ofMembers
    [("count", .ofNat group.findings.length),
      ("name", .ofString checkName),
      ("rule", .ofString group.ruleId),
      ("violations", .array (group.findings.map findingJson))]

/-- The files that could not be checked. -/
def failureJson (report : FileReport) : Option Json :=
  report.error?.map fun error =>
    .ofMembers [("error", .ofString error), ("file", .ofString report.path)]

/-- The document of a report. -/
def document (groups : List RuleGroup) (reports : List FileReport) : Json :=
  .ofMembers
    [("errors", .array (reports.filterMap failureJson)),
      ("rules", .array (groups.map groupJson))]

end DecoratorLint.Report
