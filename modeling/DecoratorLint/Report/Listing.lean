import DecoratorLint.Report.Groups
import DecoratorLint.Report.Style
import DecoratorLint.Text.Decimal

/-!
# The report for people

Every group of violations has a headline, a hint how to mend them, and for each
violation where it is, what it is and how the line looks.
-/

namespace DecoratorLint.Report

/-- The name of the check. -/
def checkName : String :=
  "Required Decorator Parameters"

/-- How violations are mended. -/
def hint : String :=
  "Pass every required parameter by keyword at the decorator use site, " ++
    "or suppress with `# noqa: <ID>`."

/-- The line under a headline. -/
def underline : String :=
  String.ofList (List.replicate 80 '─')

/-- How the word for a severity looks in a headline. -/
def severityStyle : Severity → Style
  | .error => .boldRed
  | .warning => .boldYellow
  | .info => .boldBlue

/-- The headline of a group. -/
def headline (coloured : Bool) (group : RuleGroup) : String :=
  let count := group.findings.length
  (severityStyle group.severity).paint coloured group.severity.word ++ " " ++
    Style.boldCyan.paint coloured group.ruleId ++ " - " ++
    Style.boldWhite.paint coloured checkName ++
    " (" ++ Text.showNat count ++ " occurrence" ++ (if count = 1 then "" else "s") ++ ")"

/-- The lines about one violation; an empty source line is not shown. -/
def findingLines (coloured : Bool) (finding : Finding) : List String :=
  ("    " ++ Style.dimmed.paint coloured finding.violation.path ++ ":" ++
      Style.yellow.paint coloured (Text.showNat finding.violation.line) ++ "  " ++
      finding.violation.message) ::
    if finding.sourceLine = "" then
      []
    else
      ["      " ++ Style.brightWhite.paint coloured finding.sourceLine]

/-- The lines about one group, the first of them empty. -/
def groupLines (coloured : Bool) (group : RuleGroup) : List String :=
  ["", headline coloured group, Style.dimmed.paint coloured underline,
      "  " ++ Style.brightGreen.paint coloured "Fix:" ++ "  " ++ hint, ""] ++
    group.findings.flatMap (findingLines coloured)

/-- The lines of a report. -/
def listing (coloured : Bool) (groups : List RuleGroup) : List String :=
  groups.flatMap (groupLines coloured)

/-- The lines about the files that could not be checked. -/
def failureLines (coloured : Bool) (reports : List FileReport) : List String :=
  reports.filterMap fun report =>
    report.error?.map fun error => Style.red.paint coloured report.path ++ ": " ++ error

end DecoratorLint.Report
