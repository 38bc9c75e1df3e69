import DecoratorLint.Lint
import DecoratorLint.Proofs.Verdict
import Mathlib.Data.List.Sort

/-!
# Parameters as sets

A rule keeps the parameters of its specification as an increasing list, in which every set
of names has one form only.  So the order and the repetitions in a specification leave no
trace: not in the rule, not in its messages, and not in what is reported for any text.
-/

namespace DecoratorLint

namespace Text

/-- Sorting forgets exactly the order and the repetitions. -/
theorem sortedUnique_eq_iff {items others : List String} :
    sortedUnique items = sortedUnique others ↔ ∀ item, item ∈ items ↔ item ∈ others := by
  constructor
  · intro same item
    rw [← mem_sortedUnique, same, mem_sortedUnique]
  · intro same
    apply List.Pairwise.eq_of_mem_iff (pairwise_lt_sortedUnique items)
      (pairwise_lt_sortedUnique others)
    intro item
    rw [mem_sortedUnique, mem_sortedUnique]
    exact same item

end Text

namespace RuleSpec

/-- Two specifications that differ at most in the order and the repetitions of their
parameters. -/
structure DemandsSame (first second : RuleSpec) : Prop where
  target : first.target = second.target
  severity : first.severity = second.severity
  id : first.id = second.id
  message : first.message = second.message
  parameters : ∀ name, name ∈ first.parameters ↔ name ∈ second.parameters

theorem DemandsSame.ofSpec_eq {first second : RuleSpec} (same : DemandsSame first second) :
    Rule.ofSpec first = Rule.ofSpec second := by
  have required := Text.sortedUnique_eq_iff.mpr same.parameters
  simp only [Rule.ofSpec, ruleId, same.target, same.severity, same.id, same.message, required]

theorem DemandsSame.activeRules_eq {first second : RuleSpec} (same : DemandsSame first second)
    (before after : List RuleSpec) (disabled : List String) :
    activeRules (before ++ first :: after) disabled =
      activeRules (before ++ second :: after) disabled := by
  rw [activeRules, activeRules, List.map_append, List.map_append, List.map_cons, List.map_cons,
    same.ofSpec_eq]

end RuleSpec

/-- Of the parameters of a specification only their set matters.  The names that its rule
requires are strictly increasing by code points and exactly the parameters; with the same
parameters in another order, or with repetitions, they are the same; and in any list of
specifications one of the two can stand for the other without a change in any report. -/
theorem lintSource_eq_of_demandsSame {first second : RuleSpec}
    (same : first.DemandsSame second) :
    (Rule.ofSpec first).required = (Rule.ofSpec second).required ∧
    (Rule.ofSpec first).required.Pairwise (· < ·) ∧
    (∀ name, name ∈ (Rule.ofSpec first).required ↔ name ∈ first.parameters) ∧
    ∀ (path source : String) (before after : List RuleSpec) (disabled : List String),
      lintSource path source (activeRules (before ++ first :: after) disabled) =
        lintSource path source (activeRules (before ++ second :: after) disabled) := by
  refine ⟨by rw [same.ofSpec_eq], Text.pairwise_lt_sortedUnique first.parameters, ?_, ?_⟩
  · exact fun name => Rule.mem_required_ofSpec
  · intro path source before after disabled
    rw [same.activeRules_eq]

/-- The same parameters in another order and with a repetition. -/
theorem lintSource_eq_of_demandsSame_repeated :
    let first : RuleSpec := { target := some "route", parameters := ["methods", "endpoint"] }
    let second : RuleSpec :=
      { target := some "route", parameters := ["endpoint", "methods", "endpoint"] }
    let other : RuleSpec := { target := some "task", parameters := ["name"], id := some "T1" }
    first.DemandsSame second ∧ (Rule.ofSpec second).required = ["endpoint", "methods"] ∧
      (Rule.ofSpec second).requiredText = "endpoint,methods" ∧
      ∀ source, lintSource "a.py" source (activeRules [other, first] ["T1"]) =
        lintSource "a.py" source (activeRules [other, second] ["T1"]) := by
  intro first second other
  have same : first.DemandsSame second :=
    ⟨rfl, rfl, rfl, rfl, by simp [first, second, or_comm]⟩
  obtain ⟨required, _, _, reports⟩ := lintSource_eq_of_demandsSame same
  have sorted : (Rule.ofSpec first).required = ["endpoint", "methods"] := by
    decide
  refine ⟨same, required ▸ sorted, by decide +kernel, ?_⟩
  exact fun source => reports "a.py" source [other] [] ["T1"]

end DecoratorLint
