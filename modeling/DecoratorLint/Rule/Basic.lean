import DecoratorLint.Decorator.Use
import DecoratorLint.Rule.Spec
import DecoratorLint.Text.Lines
import DecoratorLint.Text.Sorted

/-!
# Rules

A rule is about the decorator of one simple name and demands a set of keyword
parameters of every use of it.  Only the presence of keywords counts: values and
further keywords are free.  A required name that is given twice counts twice.
-/

namespace DecoratorLint

/-- A finding: a use that does not give what a rule demands. -/
structure Violation where
  ruleId : String
  message : String
  /-- The byte offset of the decorator expression. -/
  offset : Nat
  /-- The 1-based line of the offset. -/
  line : Nat
  path : String
  severity : Severity
deriving Repr, DecidableEq

/-- A rule, ready to be checked. -/
structure Rule where
  id : String := RuleSpec.defaultId
  severity : Severity := .default
  /-- The message, with places for the decorator and for its parameters. -/
  template : String
  /-- The simple name of the decorator; a rule without one never applies. -/
  target : Option String
  /-- The required names, strictly increasing. -/
  required : List String
deriving Repr, DecidableEq

namespace Rule

/-- Stands for the name of the decorator in a message template. -/
def targetPlace : String :=
  "\x7bannotation\x7d"

/-- Stands for the required parameters in a message template. -/
def parametersPlace : String :=
  "\x7bparameters\x7d"

/-- The template of rules that do not state one. -/
def defaultTemplate : String :=
  "Annotation @\x7bannotation\x7d missing one of these required parameters: (\x7bparameters\x7d)"

/-- The rule of a specification. -/
def ofSpec (spec : RuleSpec) : Rule :=
  { id := spec.ruleId
    severity := spec.severity.getD .default
    template := spec.message.getD defaultTemplate
    target := spec.target
    required := Text.sortedUnique spec.parameters }

/-- What a rule is about, in words. -/
def description (rule : Rule) : String :=
  match rule.target with
  | some name => "@" ++ name ++ " must be given its required keyword parameters"
  | none => "Decorator rule without a target annotation (inactive)"

/-- Whether a rule can apply at all. -/
def isEnabled (rule : Rule) : Bool :=
  rule.target.isSome

/-- Whether a rule is about the decorator of a use. -/
def applies (rule : Rule) (use : Use) : Bool :=
  rule.target = some use.simpleName

/-- How many of the given names are required ones; a name counts as often as it
is given. -/
def foundCount (rule : Rule) (use : Use) : Nat :=
  use.parameterNames.countP rule.required.contains

/-- The required names as they are shown. -/
def requiredText (rule : Rule) : String :=
  Text.joinWith "," rule.required

/-- The message of a rule: first every place for the decorator is filled, then
every place for the parameters in the result. -/
def message (rule : Rule) : String :=
  Text.replaceAll (Text.replaceAll rule.template targetPlace (rule.target.getD ""))
    parametersPlace rule.requiredText

/-- The message for a use that lacks a required name. -/
def verdict? (rule : Rule) (use : Use) : Option String :=
  if rule.applies use && rule.foundCount use < rule.required.length then
    some rule.message
  else
    none

/-- The violation of a rule by a use in a source text. -/
def violation? (rule : Rule) (path : String) (source : List Char) (use : Use) :
    Option Violation :=
  (rule.verdict? use).map fun message =>
    { ruleId := rule.id
      message
      offset := use.offset
      line := Text.lineOfOffset source use.offset
      path
      severity := rule.severity }

end Rule

/-! ## Choosing the rules of a run -/

/-- The rules of a run: those of the specifications that name a decorator and
whose id is not disabled. -/
def activeRules (specs : List RuleSpec) (disabled : List String) : List Rule :=
  (specs.map Rule.ofSpec).filter fun rule => !disabled.contains rule.id && rule.isEnabled

/-- The ids of rules, each once, in the order in which they first occur. -/
def ruleIds (rules : List Rule) : List String :=
  rules.foldl (fun ids rule => if ids.contains rule.id then ids else ids ++ [rule.id]) []

@[simp]
theorem ruleIds_nil : ruleIds [] = [] :=
  rfl

/-- The id of the last rule is added unless another rule has it. -/
theorem ruleIds_concat (rules : List Rule) (rule : Rule) :
    ruleIds (rules ++ [rule]) =
      if rule.id ∈ ruleIds rules then ruleIds rules else ruleIds rules ++ [rule.id] := by
  simp [ruleIds]

end DecoratorLint
