import DecoratorLint.Rule.Basic
import Mathlib.Algebra.GroupWithZero.Nat
import Mathlib.Algebra.Order.BigOperators.Group.List
import Mathlib.Data.List.Nodup
import Mathlib.Data.String.Basic

/-!
# Verdicts of rules

A rule decides by counting: it compares how many of the given names are required
with how many names are required.  The count is a sum over the required names, of
how often each of them is given.  Where no name is given twice, the rule speaks up
exactly when a required name is missing.
-/

namespace DecoratorLint

open Source (Expr)

/-! ## Required names -/

namespace Text

theorem pairwise_lt_insertSorted {item : String} {items : List String}
    (increasing : items.Pairwise (· < ·)) : (insertSorted item items).Pairwise (· < ·) := by
  induction items with
  | nil => simp [insertSorted]
  | cons first rest ih =>
      obtain ⟨firstLess, restIncreasing⟩ := List.pairwise_cons.mp increasing
      rw [insertSorted]
      split
      · rename_i less
        apply List.pairwise_cons.mpr
        refine ⟨?_, increasing⟩
        intro other member
        rcases List.mem_cons.mp member with rfl | member
        · exact less
        · exact less.trans (firstLess other member)
      · rename_i notLess
        split
        · exact increasing
        · rename_i notEqual
          apply List.pairwise_cons.mpr
          refine ⟨?_, ih restIncreasing⟩
          intro other member
          rcases mem_insertSorted.mp member with rfl | member
          · exact lt_of_le_of_ne (not_lt.mp notLess) (Ne.symm notEqual)
          · exact firstLess other member

/-- Sorting gives a strictly increasing list. -/
theorem pairwise_lt_sortedUnique (items : List String) :
    (sortedUnique items).Pairwise (· < ·) := by
  induction items with
  | nil => exact List.Pairwise.nil
  | cons item items ih => exact pairwise_lt_insertSorted ih

theorem nodup_sortedUnique (items : List String) : (sortedUnique items).Nodup :=
  (pairwise_lt_sortedUnique items).imp ne_of_lt

end Text

/-! ## Counting -/

theorem countP_contains_cons {first : String} {rest : List String} (absent : first ∉ rest)
    (names : List String) :
    names.countP (first :: rest).contains = names.count first + names.countP rest.contains := by
  induction names with
  | nil => rfl
  | cons name names ih =>
      rw [List.countP_cons, List.countP_cons, List.count_cons, ih]
      by_cases same : name = first
      · subst name
        simp [absent]
        omega
      · simp [same]
        omega

/-- The given names that are required, counted required name by required name. -/
theorem countP_contains_eq_sum_count {required : List String} (nodup : required.Nodup)
    (names : List String) :
    names.countP required.contains = (required.map fun name => names.count name).sum := by
  induction required with
  | nil => simp
  | cons first rest ih =>
      obtain ⟨absent, restNodup⟩ := List.nodup_cons.mp nodup
      rw [countP_contains_cons absent, ih restNodup, List.map_cons, List.sum_cons]

/-- Counts of at most one add up to less than their number exactly when one of
them is zero. -/
theorem sum_lt_length_iff {names : List String} {count : String → Nat}
    (small : ∀ name, count name ≤ 1) :
    (names.map count).sum < names.length ↔ ∃ name ∈ names, count name = 0 := by
  induction names with
  | nil => simp
  | cons first rest ih =>
      have bound : (rest.map count).sum ≤ rest.length := by
        calc
          (rest.map count).sum ≤ (rest.map fun _ => 1).sum :=
            List.sum_le_sum fun name _ => small name
          _ = rest.length := by simp
      have firstSmall := small first
      rw [List.map_cons, List.sum_cons, List.length_cons, List.exists_mem_cons_iff, ← ih]
      omega

namespace Rule

/-- How often each required name is given, added up. -/
theorem foundCount_eq_sum {rule : Rule} (nodup : rule.required.Nodup) (use : Use) :
    rule.foundCount use = (rule.required.map fun name => use.parameterNames.count name).sum :=
  countP_contains_eq_sum_count nodup use.parameterNames

/-- A use that repeats no name falls short of the required number exactly when it
lacks a required name. -/
theorem foundCount_lt_length_iff {rule : Rule} {use : Use} (nodup : rule.required.Nodup)
    (distinct : use.parameterNames.Nodup) :
    rule.foundCount use < rule.required.length ↔
      ∃ name ∈ rule.required, name ∉ use.parameterNames := by
  rw [foundCount_eq_sum nodup, sum_lt_length_iff (List.nodup_iff_count_le_one.mp distinct)]
  simp only [List.count_eq_zero]

theorem nodup_required_ofSpec (spec : RuleSpec) : (ofSpec spec).required.Nodup :=
  Text.nodup_sortedUnique spec.parameters

theorem mem_required_ofSpec {spec : RuleSpec} {name : String} :
    name ∈ (ofSpec spec).required ↔ name ∈ spec.parameters :=
  Text.mem_sortedUnique

end Rule

/-! ## Violations -/

/-- What a specification says about a use that lacks a parameter. -/
def RuleSpec.complaint (spec : RuleSpec) (path : String) (source : List Char) (use : Use) :
    Violation :=
  { ruleId := spec.ruleId
    message := (Rule.ofSpec spec).message
    offset := use.offset
    line := Text.lineOfOffset source use.offset
    path
    severity := spec.severity.getD .default }

namespace Rule

theorem verdict?_eq_some_iff {rule : Rule} {use : Use} {text : String} :
    rule.verdict? use = some text ↔
      rule.target = some use.simpleName ∧ rule.foundCount use < rule.required.length ∧
        text = rule.message := by
  rw [verdict?, applies]
  by_cases speaks : rule.target = some use.simpleName ∧
      rule.foundCount use < rule.required.length
  · obtain ⟨named, short⟩ := speaks
    simp [named, short, eq_comm]
  · constructor
    · intro verdict
      simp only [Bool.and_eq_true, decide_eq_true_eq, speaks, if_false, reduceCtorEq] at verdict
    · rintro ⟨named, short, _⟩
      exact absurd ⟨named, short⟩ speaks

/-- The rule of a specification complains about a use that repeats no name exactly
when it is about that decorator and one of the parameters is not given. -/
theorem violation?_ofSpec_eq_some_iff {spec : RuleSpec} {path : String} {source : List Char}
    {use : Use} (distinct : use.parameterNames.Nodup) {violation : Violation} :
    (ofSpec spec).violation? path source use = some violation ↔
      spec.target = some use.simpleName ∧
        (∃ parameter ∈ spec.parameters, parameter ∉ use.parameterNames) ∧
          violation = spec.complaint path source use := by
  have short := foundCount_lt_length_iff (nodup_required_ofSpec spec) distinct
  simp only [mem_required_ofSpec] at short
  rw [violation?, Option.map_eq_some_iff]
  constructor
  · rintro ⟨text, verdict, rfl⟩
    obtain ⟨named, few, rfl⟩ := verdict?_eq_some_iff.mp verdict
    exact ⟨named, short.mp few, rfl⟩
  · rintro ⟨named, missing, rfl⟩
    exact ⟨_, verdict?_eq_some_iff.mpr ⟨named, short.mpr missing, rfl⟩, rfl⟩

/-- A violation names the rule, the place and the line of the use. -/
theorem of_violation?_eq_some {rule : Rule} {path : String} {source : List Char} {use : Use}
    {violation : Violation} (found : rule.violation? path source use = some violation) :
    violation.ruleId = rule.id ∧ violation.offset = use.offset ∧
      violation.line = Text.lineOfOffset source use.offset := by
  obtain ⟨text, _, rfl⟩ := Option.map_eq_some_iff.mp found
  exact ⟨rfl, rfl, rfl⟩

end Rule

end DecoratorLint
