import DecoratorLint.Rule.Spec
import DecoratorLint.Toml.Value

/-!
# The configuration section

What the section `[tool.annotation-lint]` of a document says: what to exclude,
which rules to disable, and the specifications of rules.  A record may be
written as a table with named entries or as an array of its fields in order;
entries with other names are ignored, and fields that may be missing may be left
out at the end of the array.
-/

namespace DecoratorLint

/-- What the configuration section says. -/
structure Config where
  exclude : List String := []
  disable : List String := []
  required : List RuleSpec := []
deriving Repr, DecidableEq

namespace Config

/-- The name of the section inside the table `tool`. -/
def sectionName : String :=
  "annotation-lint"

/-- The configuration section of a document. -/
def section? (document : Toml) : Option Toml :=
  (document.get? "tool").bind (Toml.get? sectionName)

/-- A string; a point in time stands for its text. -/
def string? : Toml → Option String
  | .string text => some text
  | .datetime text => some text
  | _ => none

/-- A list of strings. -/
def strings? : Toml → Option (List String)
  | .array items => items.mapM string?
  | _ => none

/-- A severity: its word, or a table that has nothing but an empty value under
that word. -/
def severity? : Toml → Option Severity
  | .string text => Severity.ofWord? text
  | .table [(word, .table [])] => Severity.ofWord? word
  | .table [(word, .array [])] => Severity.ofWord? word
  | _ => none

/-- The fields of a record with the given names, in order.  In a table each field
is looked up by its name; in an array it is found by its place, and there may be
no further items. -/
def fields? (names : List String) : Toml → Option (List (Option Toml))
  | .table entries => some (names.map fun name => entries.lookup name)
  | .array items =>
      if items.length ≤ names.length then
        some (items.map some ++ List.replicate (names.length - items.length) none)
      else
        none
  | _ => none

/-- A field that may be missing. -/
def optional? {α : Type} (read : Toml → Option α) (field : Option Toml) :
    Option (Option α) :=
  match field with
  | none => some none
  | some value => (read value).map some

/-- A field that is read as empty when it is missing. -/
def listOrEmpty? {α : Type} (read : Toml → Option (List α)) (field : Option Toml) :
    Option (List α) :=
  (optional? read field).map (·.getD [])

/-- The names of the fields of a specification. -/
def specFields : List String :=
  ["annotation", "parameters", "severity", "id", "message"]

/-- Whether a record written as an array lacks even its first field. -/
def isEmptyArray : Toml → Bool
  | .array [] => true
  | _ => false

/-- The specification of a rule.  Written as an array it has at least its first
field. -/
def ruleSpec? (value : Toml) : Option RuleSpec :=
  if isEmptyArray value then
    none
  else
    match fields? specFields value with
    | some [target, parameters, severity, id, message] => do
        let target ← optional? string? target
        let parameters ← listOrEmpty? strings? parameters
        let severity ← optional? severity? severity
        let id ← optional? string? id
        let message ← optional? string? message
        some { target, parameters, severity, id, message }
    | _ => none

/-- A list of specifications. -/
def ruleSpecs? : Toml → Option (List RuleSpec)
  | .array items => items.mapM ruleSpec?
  | _ => none

/-- The names of the fields of the section. -/
def configFields : List String :=
  ["exclude", "disable", "required"]

/-- The configuration that a section states; nothing when it has another
shape. -/
def ofSection? (value : Toml) : Option Config :=
  match fields? configFields value with
  | some [exclude, disable, required] => do
      let exclude ← listOrEmpty? strings? exclude
      let disable ← listOrEmpty? strings? disable
      let required ← listOrEmpty? ruleSpecs? required
      some { exclude, disable, required }
  | _ => none

/-- The id of the first specification whose id is not one. -/
def invalidId? (config : Config) : Option String :=
  (config.required.find? (!·.hasValidId)).map RuleSpec.ruleId

end Config

end DecoratorLint
