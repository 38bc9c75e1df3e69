import DecoratorLint.Rule.Severity
import DecoratorLint.Text.Blank
import DecoratorLint.Text.Pieces

/-!
# Rule specifications

What a user says about one decorator: its name, the keywords that every use has
to give, and optionally how a violation is reported.  On the command line a
specification is written `NAME=param1,param2`.
-/

namespace DecoratorLint

/-- The specification of one rule. -/
structure RuleSpec where
  /-- The simple name of the decorator; without one the rule is about nothing. -/
  target : Option String := none
  /-- The keywords that every use has to give. -/
  parameters : List String := []
  severity : Option Severity := none
  id : Option String := none
  /-- The message, with places for the decorator and for its parameters. -/
  message : Option String := none
deriving Repr, DecidableEq

namespace RuleSpec

/-- The id of rules that do not state one. -/
def defaultId : String :=
  "ANN001"

/-- The id under which violations are reported. -/
def ruleId (spec : RuleSpec) : String :=
  spec.id.getD defaultId

/-- Whether a character may stand in an id. -/
def isIdChar (char : Char) : Bool :=
  char.isUpper || char.isDigit

/-- Whether a text is an id: an uppercase letter, then uppercase letters and
digits. -/
def isId (text : String) : Bool :=
  match text.toList with
  | [] => false
  | first :: rest => first.isUpper && rest.all isIdChar

/-- Whether the id of a specification is one. -/
def hasValidId (spec : RuleSpec) : Bool :=
  isId spec.ruleId

theorem isId_defaultId : isId defaultId = true := by
  decide

/-- The part of a text before its first equals sign, and the part after it. -/
def splitAtEquals (text : List Char) : List Char × List Char :=
  (text.takeWhile (· ≠ '='), (text.dropWhile (· ≠ '=')).drop 1)

/-- The names in a list with commas; blanks around them do not count, and neither
do empty names. -/
def namesOf (text : List Char) : List String :=
  (((Text.pieces (· = ',') text).map Text.trim).filter (!·.isEmpty)).map String.ofList

/-- Read a specification written `NAME=param1,param2`.  The name is trimmed, and
it may be neither empty nor in two words. -/
def ofText? (text : String) : Option RuleSpec :=
  let (before, after) := splitAtEquals text.toList
  let name := Text.trim before
  if name.isEmpty || name.any Text.isBlank then
    none
  else
    some { target := some (String.ofList name), parameters := namesOf after }

end RuleSpec

end DecoratorLint
