import DecoratorLint.Lint
import DecoratorLint.SourceLines

/-!
# Findings

What is told about a run, in reports and in its record, are its violations with
the lines they stand at.  The lines are read when they are told, which is after
the files were checked.
-/

namespace DecoratorLint

/-- A violation and the trimmed line it stands at. -/
structure Finding where
  violation : Violation
  /-- Empty if the line could not be read. -/
  sourceLine : String
deriving Repr, DecidableEq

/-- All violations of reports with the lines they stand at, as the files are now,
and what was read for that. -/
def findingsOf (system : FileSystem) (reports : List FileReport) :
    List Finding × SourceLines :=
  let (found, read) :=
    SourceLines.getAll Violation.path Violation.line system {} (allViolations reports)
  (found.map fun (violation, sourceLine) => { violation, sourceLine }, read)

/-- The findings are the violations, in their order. -/
theorem map_violation_findingsOf (system : FileSystem) (reports : List FileReport) :
    (findingsOf system reports).1.map Finding.violation = allViolations reports := by
  have kept := SourceLines.map_fst_getAll Violation.path Violation.line system {}
    (allViolations reports)
  simpa [findingsOf, Function.comp_def] using kept

end DecoratorLint
