/-!
# Severities

How serious a violation is.  Only errors make a run fail.
-/

namespace DecoratorLint

/-- How serious a violation is, the most serious first. -/
inductive Severity where
  | error
  | warning
  | info
deriving Repr, DecidableEq, Inhabited

namespace Severity

/-- The severity of a rule that does not state one. -/
def default : Severity :=
  .error

/-- All severities, in order. -/
def all : List Severity :=
  [.error, .warning, .info]

/-- The word for a severity. -/
def word : Severity → String
  | .error => "error"
  | .warning => "warning"
  | .info => "info"

/-- The severity that a word stands for. -/
def ofWord? (text : String) : Option Severity :=
  all.find? fun severity => severity.word = text

@[simp]
theorem ofWord?_word (severity : Severity) : ofWord? severity.word = some severity := by
  cases severity <;> decide

/-- The place of a severity in the order. -/
def rank : Severity → Nat
  | .error => 0
  | .warning => 1
  | .info => 2

end Severity

end DecoratorLint
