import DecoratorLint.Finding

/-!
# Violations by rule

A report lists violations rule by rule.  The groups come in the order of the rule
ids, and within a group violations keep the order in which they were found.
-/

namespace DecoratorLint

/-- The violations of one rule id. -/
structure RuleGroup where
  ruleId : String
  findings : List Finding
deriving Repr, DecidableEq

namespace RuleGroup

/-- Add a finding to groups with strictly increasing ids, as the last of its
group. -/
def insert (finding : Finding) : List RuleGroup → List RuleGroup
  | [] => [{ ruleId := finding.violation.ruleId, findings := [finding] }]
  | group :: rest =>
      if finding.violation.ruleId < group.ruleId then
        { ruleId := finding.violation.ruleId, findings := [finding] } :: group :: rest
      else if finding.violation.ruleId = group.ruleId then
        { group with findings := group.findings ++ [finding] } :: rest
      else
        group :: insert finding rest

/-- The groups of findings. -/
def ofFindings (findings : List Finding) : List RuleGroup :=
  findings.foldl (fun groups finding => insert finding groups) []

@[simp]
theorem ofFindings_nil : ofFindings [] = [] :=
  rfl

/-- The last finding is the last to be added. -/
@[simp]
theorem ofFindings_concat (findings : List Finding) (finding : Finding) :
    ofFindings (findings ++ [finding]) = insert finding (ofFindings findings) := by
  simp [ofFindings]

/-- The severity that is shown for a group: that of its first violation. -/
def severity (group : RuleGroup) : Severity :=
  (group.findings.head?.map (·.violation.severity)).getD .error

end RuleGroup

end DecoratorLint
