import DecoratorLint.Files.FileSystem
import DecoratorLint.Rule.Basic
import DecoratorLint.Source.Module
import DecoratorLint.Suppression

/-!
# Checking files

Every decorator of a program is checked against every rule, in the order of the
text and, at one decorator, in the order of the rules.  Comments suppress what is
found on their lines, and a file can take itself out before it is even parsed.
-/

namespace DecoratorLint

open Source (Expr Stmt)

/-- The violations that one decorator gives rise to, in the order of the
rules. -/
def decoratorViolations (path : String) (source : List Char) (rules : List Rule)
    (suppression : Suppression) (decorator : Expr) : List Violation :=
  match Use.ofDecorator? decorator with
  | none => []
  | some use =>
      (rules.filterMap (·.violation? path source use)).filter fun violation =>
        !suppression.suppresses violation.line violation.ruleId

/-- The violations in a program, in the order of its text. -/
def programViolations (path : String) (source : List Char) (rules : List Rule)
    (suppression : Suppression) (program : List Stmt) : List Violation :=
  (Source.bodyDecorators program).flatMap (decoratorViolations path source rules suppression)

/-- What came of checking a file. -/
inductive Outcome where
  /-- The file could not be read. -/
  | unreadable (cause : ReadError)
  /-- A comment takes the file out. -/
  | skipped
  /-- The text is no program. -/
  | unparsable
  | checked (violations : List Violation)
deriving Repr, DecidableEq

/-- A file and what came of checking it. -/
structure FileReport where
  path : String
  outcome : Outcome
deriving Repr, DecidableEq

namespace FileReport

/-- The violations found in a file. -/
def violations (report : FileReport) : List Violation :=
  match report.outcome with
  | .checked violations => violations
  | _ => []

/-- Why a file could not be checked.  That a text is no program is told without what the
parser has to say about the place. -/
def error? (report : FileReport) : Option String :=
  match report.outcome with
  | .unreadable cause => some ("Failed to read file: " ++ cause.message)
  | .unparsable => some "Parse error"
  | .skipped => none
  | .checked _ => none

/-- How many violations of a severity were found in a file. -/
def countOf (report : FileReport) (severity : Severity) : Nat :=
  report.violations.countP (·.severity = severity)

end FileReport

/-- Check a source text. -/
def lintSource (path source : String) (rules : List Rule) : FileReport :=
  let text := source.toList
  let suppression := Suppression.ofSource text
  let outcome :=
    if suppression.skipsFile then
      .skipped
    else
      match Source.parse? text with
      | none => .unparsable
      | some program => .checked (programViolations path text rules suppression program)
  { path, outcome }

/-- Check a file. -/
def lintFile (system : FileSystem) (rules : List Rule) (path : String) : FileReport :=
  match system.read path with
  | .error cause => { path, outcome := .unreadable cause }
  | .ok source => lintSource path source rules

/-- Check files, in their order. -/
def lintFiles (system : FileSystem) (rules : List Rule) (paths : List String) :
    List FileReport :=
  paths.map (lintFile system rules)

/-- All violations of reports, in their order. -/
def allViolations (reports : List FileReport) : List Violation :=
  reports.flatMap FileReport.violations

@[simp]
theorem allViolations_nil : allViolations [] = [] :=
  rfl

@[simp]
theorem allViolations_cons (report : FileReport) (reports : List FileReport) :
    allViolations (report :: reports) = report.violations ++ allViolations reports :=
  rfl

/-- How many violations of a severity there are in reports. -/
def countOf (reports : List FileReport) (severity : Severity) : Nat :=
  reports.foldr (fun report total => report.countOf severity + total) 0

@[simp]
theorem countOf_nil (severity : Severity) : countOf [] severity = 0 :=
  rfl

@[simp]
theorem countOf_cons (report : FileReport) (reports : List FileReport) (severity : Severity) :
    countOf (report :: reports) severity = report.countOf severity + countOf reports severity :=
  rfl

/-- Counting file by file is counting all violations. -/
theorem countOf_eq_countP (reports : List FileReport) (severity : Severity) :
    countOf reports severity = (allViolations reports).countP (·.severity = severity) := by
  induction reports with
  | nil => rfl
  | cons report reports ih => simp [ih, FileReport.countOf]

/-- The uses of decorators in a source text, in the order of the text; nothing
when the text is no program.  A file that takes itself out has none. -/
def usesIn? (source : String) : Option (List Use) :=
  let text := source.toList
  if (Suppression.ofSource text).skipsFile then
    some []
  else
    (Source.parse? text).map fun program =>
      (Source.bodyDecorators program).filterMap Use.ofDecorator?

end DecoratorLint
