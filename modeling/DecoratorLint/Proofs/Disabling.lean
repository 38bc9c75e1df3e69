import DecoratorLint.Lint
import DecoratorLint.Proofs.Verdict

/-!
# Disabling rules

Rules can be taken out of a run before it starts, or their violations can be taken
out of what a run with all rules has found.  Both come to the same, because a
violation carries the id of the rule that made it and a rule without a decorator
never makes one.
-/

namespace DecoratorLint

open Source (Stmt Expr)

/-! ## One decorator -/

namespace Rule

theorem violation?_eq_none_of_not_isEnabled {rule : Rule} (disabled : rule.isEnabled = false)
    (path : String) (source : List Char) (use : Use) : rule.violation? path source use = none := by
  have untargeted : rule.target = none := by
    simpa [isEnabled] using disabled
  rw [violation?, Option.map_eq_none_iff, Option.eq_none_iff_forall_not_mem]
  intro text verdict
  have named := (verdict?_eq_some_iff.mp verdict).1
  rw [untargeted] at named
  contradiction

/-- Whether a violation goes is decided by the rule that made it. -/
theorem filter_violation? (rule : Rule) (path : String) (source : List Char) (use : Use)
    (keeps : String → Bool) :
    (rule.violation? path source use).filter (fun violation => keeps violation.ruleId) =
      if keeps rule.id then rule.violation? path source use else none := by
  cases found : rule.violation? path source use with
  | none => simp
  | some violation =>
      have made := (of_violation?_eq_some found).1
      rw [Option.filter_some, made]

end Rule

/-- Leaving rules out by their ids, together with rules that are about nothing, leaves out
the violations with these ids. -/
theorem filterMap_violation?_filter (path : String) (source : List Char) (use : Use)
    (keeps : String → Bool) (rules : List Rule) :
    (rules.filter fun rule => keeps rule.id && rule.isEnabled).filterMap
        (·.violation? path source use) =
      (rules.filterMap (·.violation? path source use)).filter fun violation =>
        keeps violation.ruleId := by
  rw [List.filterMap_filter, List.filter_filterMap]
  congr 1
  funext rule
  rw [Rule.filter_violation?]
  cases enabled : rule.isEnabled with
  | false => simp [Rule.violation?_eq_none_of_not_isEnabled enabled]
  | true => simp

theorem decoratorViolations_filter (path : String) (source : List Char)
    (suppression : Suppression) (keeps : String → Bool) (rules : List Rule) (decorator : Expr) :
    decoratorViolations path source (rules.filter fun rule => keeps rule.id && rule.isEnabled)
        suppression decorator =
      (decoratorViolations path source rules suppression decorator).filter fun violation =>
        keeps violation.ruleId := by
  simp only [decoratorViolations]
  cases Use.ofDecorator? decorator with
  | none => rfl
  | some use =>
      simp only [filterMap_violation?_filter, List.filter_filter]
      congr 1
      funext violation
      exact Bool.and_comm _ _

/-! ## Whole programs and texts -/

theorem programViolations_activeRules (path : String) (source : List Char)
    (suppression : Suppression) (specs : List RuleSpec) (disabled : List String)
    (program : List Stmt) :
    programViolations path source (activeRules specs disabled) suppression program =
      (programViolations path source (specs.map Rule.ofSpec) suppression program).filter
        fun violation => !disabled.contains violation.ruleId := by
  rw [programViolations, programViolations, List.filter_flatMap, activeRules]
  congr 1
  funext decorator
  exact decoratorViolations_filter path source suppression (!disabled.contains ·) _ decorator

/-- A text that takes itself out has no violations. -/
theorem violations_lintSource_of_skipsFile (path : String) {source : String} (rules : List Rule)
    (skips : (Suppression.ofSource source.toList).skipsFile = true) :
    (lintSource path source rules).violations = [] := by
  simp only [lintSource, skips, if_true, FileReport.violations]

/-- The violations in any other text are those in the program that it is. -/
theorem violations_lintSource_of_parse? (path : String) {source : String} (rules : List Rule)
    {program : List Stmt} (skips : (Suppression.ofSource source.toList).skipsFile = false)
    (parsed : Source.parse? source.toList = some program) :
    (lintSource path source rules).violations =
      programViolations path source.toList rules (Suppression.ofSource source.toList) program := by
  simp only [lintSource, skips, parsed, FileReport.violations]
  rfl

/-- Only a program that does not take itself out has violations. -/
theorem mem_violations_lintSource_iff {path source : String} {rules : List Rule}
    {violation : Violation} :
    violation ∈ (lintSource path source rules).violations ↔
      (Suppression.ofSource source.toList).skipsFile = false ∧
        ∃ program, Source.parse? source.toList = some program ∧
          violation ∈ programViolations path source.toList rules
            (Suppression.ofSource source.toList) program := by
  cases skips : (Suppression.ofSource source.toList).skipsFile with
  | true => simp [violations_lintSource_of_skipsFile path rules skips]
  | false =>
      cases parsed : Source.parse? source.toList with
      | none => simp [lintSource, skips, parsed, FileReport.violations]
      | some program => simp [violations_lintSource_of_parse? path rules skips parsed]

/-- Whether there is an error is decided by the text, whatever the rules. -/
theorem error?_lintSource (path source : String) (rules : List Rule) :
    (lintSource path source rules).error? =
      if (Suppression.ofSource source.toList).skipsFile || (Source.parse? source.toList).isSome then
        none
      else
        some "Parse error" := by
  cases skips : (Suppression.ofSource source.toList).skipsFile with
  | true => simp [lintSource, FileReport.error?, skips]
  | false =>
      cases parsed : Source.parse? source.toList <;>
        simp [lintSource, FileReport.error?, skips, parsed]

/-- A run without the disabled rules reports the same path and the same error as a
run with the rules of all specifications, and the violations of that run without
those that carry a disabled id, in the same order. -/
theorem lintSource_activeRules_eq_filter (path source : String) (specs : List RuleSpec)
    (disabled : List String) :
    let run := lintSource path source (activeRules specs disabled)
    let full := lintSource path source (specs.map Rule.ofSpec)
    run.path = full.path ∧ run.error? = full.error? ∧
      run.violations = full.violations.filter fun violation => violation.ruleId ∉ disabled := by
  intro run full
  have keeps : (fun violation : Violation => decide (violation.ruleId ∉ disabled)) =
      fun violation => !disabled.contains violation.ruleId := by
    funext violation
    simp
  rw [keeps]
  refine ⟨rfl, ?_, ?_⟩
  · rw [error?_lintSource, error?_lintSource]
  · cases skips : (Suppression.ofSource source.toList).skipsFile with
    | true =>
        rw [violations_lintSource_of_skipsFile path _ skips,
          violations_lintSource_of_skipsFile path _ skips]
        rfl
    | false =>
        cases parsed : Source.parse? source.toList with
        | none => simp [run, full, lintSource, skips, parsed, FileReport.violations]
        | some program =>
            rw [violations_lintSource_of_parse? path _ skips parsed,
              violations_lintSource_of_parse? path _ skips parsed, programViolations_activeRules]

end DecoratorLint
