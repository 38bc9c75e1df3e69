import DecoratorLint.Lint
import DecoratorLint.Proofs.Occurrence
import DecoratorLint.Proofs.Verdict

/-!
# Violations with their origins

A violation does not tell which decorator and which rule it comes from.  A
sighting does: it is a violation together with the place of the decorator and the
position of the rule.  The violations in a program are listed again as sightings,
and the list is described on its own: which sightings are in it, and in what order.
-/

namespace DecoratorLint

open Source (Stmt Expr Place decoratorAt? bodyPlaces bodyDecorators)

/-! ## Uses and their decorators -/

/-- The names of the keyword arguments of a call, in order. -/
def Source.Expr.keywordNames : Expr → List String
  | .call _ _ _ keywords => keywords.filterMap Prod.fst
  | _ => []

namespace Use

theorem name?_ofValue (value : Expr) : (Argument.ofValue value).name? = none := by
  rw [Argument.ofValue]
  split <;> rfl

theorem name?_ofKeyword (keyword : Option String × Expr) :
    (Argument.ofKeyword keyword).name? = keyword.1 := by
  rcases keyword with ⟨_ | name, value⟩ <;> rfl

/-- A use gives the keyword names of its decorator, and stands where it starts. -/
theorem of_ofDecorator?_eq_some {decorator : Expr} {use : Use}
    (lowers : ofDecorator? decorator = some use) :
    use.parameterNames = decorator.keywordNames ∧ use.offset = decorator.start := by
  cases decorator with
  | call start function values keywords =>
      obtain ⟨head, _, rfl⟩ := Option.map_eq_some_iff.mp lowers
      refine ⟨?_, rfl⟩
      simp only [parameterNames, Expr.keywordNames, List.filterMap_append, List.filterMap_map,
        Function.comp_def, name?_ofValue, name?_ofKeyword]
      simp
  | _ =>
      simp only [ofDecorator?, Option.map_eq_some_iff] at lowers
      obtain ⟨head, _, rfl⟩ := lowers
      exact ⟨rfl, rfl⟩

end Use

/-! ## Sightings -/

/-- A violation, the place of the decorator that it is about, and the position of
the rule that found it. -/
structure Sighting where
  place : Place
  rule : Nat
  violation : Violation
deriving Repr, DecidableEq

section

variable (path : String) (source : List Char) (rules : List Rule) (suppression : Suppression)
  (program : List Stmt)

/-- A sighting is reported: the rule at its position has found its violation at its
place, and no comment suppresses it. -/
def Sighting.Reported (sighting : Sighting) : Prop :=
  ∃ decorator use rule, decoratorAt? program sighting.place = some decorator ∧
    Use.ofDecorator? decorator = some use ∧ rules[sighting.rule]? = some rule ∧
    rule.violation? path source use = some sighting.violation ∧
    suppression.suppresses sighting.violation.line sighting.violation.ruleId = false

/-- What the rules find in a use and no comment suppresses. -/
def useSightings (place : Place) (use : Use) : List Sighting :=
  rules.zipIdx.filterMap fun entry =>
    ((entry.1.violation? path source use).filter fun violation =>
        !suppression.suppresses violation.line violation.ruleId).map
      fun violation => { place, rule := entry.2, violation }

/-- What the rules find at a place. -/
def placeSightings (place : Place) : List Sighting :=
  match (decoratorAt? program place).bind Use.ofDecorator? with
  | none => []
  | some use => useSightings path source rules suppression place use

/-- What the rules find in a program. -/
def sightings : List Sighting :=
  (bodyPlaces program).flatMap (placeSightings path source rules suppression program)

theorem map_violation_useSightings (place : Place) (use : Use) :
    (useSightings path source rules suppression place use).map Sighting.violation =
      (rules.filterMap (·.violation? path source use)).filter fun violation =>
        !suppression.suppresses violation.line violation.ruleId := by
  rw [useSightings, List.map_filterMap, List.filter_filterMap]
  simp only [Option.map_map, Function.comp_def, Option.map_id']
  let report := fun rule : Rule => (rule.violation? path source use).filter fun violation =>
    !suppression.suppresses violation.line violation.ruleId
  calc
    rules.zipIdx.filterMap (fun entry => report entry.1) =
        (rules.zipIdx.map Prod.fst).filterMap report := by
      rw [List.filterMap_map]
      rfl
    _ = rules.filterMap report := by
      rw [List.zipIdx_map_fst]

theorem map_violation_placeSightings (place : Place) :
    (placeSightings path source rules suppression program place).map Sighting.violation =
      ((decoratorAt? program place).map
        (decoratorViolations path source rules suppression)).getD [] := by
  cases occurs : decoratorAt? program place with
  | none => simp [placeSightings, occurs]
  | some decorator =>
      cases lowers : Use.ofDecorator? decorator with
      | none => simp [placeSightings, decoratorViolations, occurs, lowers]
      | some use =>
          simp [placeSightings, decoratorViolations, occurs, lowers, map_violation_useSightings]

/-- The sightings in a program are its violations, with their origins. -/
theorem map_violation_sightings :
    (sightings path source rules suppression program).map Sighting.violation =
      programViolations path source rules suppression program := by
  rw [sightings, List.map_flatMap, programViolations]
  calc
    (bodyPlaces program).flatMap (fun place =>
          (placeSightings path source rules suppression program place).map Sighting.violation) =
        ((bodyPlaces program).map (decoratorAt? program)).flatMap (fun found =>
          (found.map (decoratorViolations path source rules suppression)).getD []) := by
      rw [List.flatMap_map]
      apply List.flatMap_congr
      intro place _
      exact map_violation_placeSightings path source rules suppression program place
    _ = ((bodyDecorators program).map some).flatMap (fun found =>
          (found.map (decoratorViolations path source rules suppression)).getD []) := by
      rw [Source.map_decoratorAt?_bodyPlaces]
    _ = (bodyDecorators program).flatMap (decoratorViolations path source rules suppression) := by
      rw [List.flatMap_map]
      rfl

theorem pairwise_rule_useSightings (place : Place) (use : Use) :
    (useSightings path source rules suppression place use).Pairwise fun first second =>
      first.rule < second.rule := by
  rw [useSightings, List.pairwise_filterMap]
  apply (Source.pairwise_lt_zipIdx rules).imp
  intro first second less sighting found later laterFound
  obtain ⟨_, _, rfl⟩ := Option.map_eq_some_iff.mp found
  obtain ⟨_, _, rfl⟩ := Option.map_eq_some_iff.mp laterFound
  exact less

variable {path source rules suppression program}

theorem mem_useSightings_iff {place : Place} {use : Use} {sighting : Sighting} :
    sighting ∈ useSightings path source rules suppression place use ↔
      sighting.place = place ∧ ∃ rule, rules[sighting.rule]? = some rule ∧
        rule.violation? path source use = some sighting.violation ∧
        suppression.suppresses sighting.violation.line sighting.violation.ruleId = false := by
  simp only [useSightings, List.mem_filterMap, List.mem_zipIdx_iff_getElem?, Option.map_eq_some_iff,
    Option.filter_eq_some_iff, Prod.exists, Bool.not_eq_true']
  constructor
  · rintro ⟨rule, index, listed, violation, ⟨found, heard⟩, rfl⟩
    exact ⟨rfl, rule, listed, found, heard⟩
  · rintro ⟨rfl, rule, listed, found, heard⟩
    exact ⟨rule, sighting.rule, listed, sighting.violation, ⟨found, heard⟩, rfl⟩

theorem mem_placeSightings_iff {place : Place} {sighting : Sighting} :
    sighting ∈ placeSightings path source rules suppression program place ↔
      sighting.place = place ∧ sighting.Reported path source rules suppression program := by
  rw [placeSightings]
  constructor
  · intro member
    split at member
    · contradiction
    · rename_i use found
      obtain ⟨decorator, occurs, lowers⟩ := Option.bind_eq_some_iff.mp found
      obtain ⟨rfl, rule, reported⟩ := mem_useSightings_iff.mp member
      exact ⟨rfl, decorator, use, rule, occurs, lowers, reported⟩
  · rintro ⟨rfl, decorator, use, rule, occurs, lowers, reported⟩
    have found : (decoratorAt? program sighting.place).bind Use.ofDecorator? = some use := by
      rw [occurs, Option.bind_some, lowers]
    rw [found]
    exact mem_useSightings_iff.mpr ⟨rfl, rule, reported⟩

/-- The sightings in a program are those that are reported, and no others. -/
theorem mem_sightings_iff {sighting : Sighting} :
    sighting ∈ sightings path source rules suppression program ↔
      sighting.Reported path source rules suppression program := by
  rw [sightings, List.mem_flatMap]
  constructor
  · rintro ⟨place, _, member⟩
    exact (mem_placeSightings_iff.mp member).2
  · rintro ⟨decorator, use, rule, occurs, reported⟩
    exact ⟨sighting.place, Source.mem_bodyPlaces_iff.mpr ⟨decorator, occurs⟩,
      mem_placeSightings_iff.mpr ⟨rfl, decorator, use, rule, occurs, reported⟩⟩

/-- A violation in a program is what some rule finds at a decorator, unless a comment
suppresses it. -/
theorem mem_programViolations_iff {violation : Violation} :
    violation ∈ programViolations path source rules suppression program ↔
      ∃ place decorator use rule, decoratorAt? program place = some decorator ∧
        Use.ofDecorator? decorator = some use ∧ rule ∈ rules ∧
        rule.violation? path source use = some violation ∧
        suppression.suppresses violation.line violation.ruleId = false := by
  rw [← map_violation_sightings, List.mem_map]
  constructor
  · rintro ⟨sighting, sighted, rfl⟩
    obtain ⟨decorator, use, rule, occurs, lowers, listed, complains, heard⟩ :=
      mem_sightings_iff.mp sighted
    exact ⟨sighting.place, decorator, use, rule, occurs, lowers, List.mem_of_getElem? listed,
      complains, heard⟩
  · rintro ⟨place, decorator, use, rule, occurs, lowers, member, complains, heard⟩
    obtain ⟨index, listed⟩ := List.getElem?_of_mem member
    exact ⟨{ place, rule := index, violation },
      mem_sightings_iff.mpr ⟨decorator, use, rule, occurs, lowers, listed, complains, heard⟩, rfl⟩

/-- Sightings come in the order of their places, and at one place in the order of
the rules. -/
theorem pairwise_sightings {before : Place → Place → Prop}
    (ordered : (bodyPlaces program).Pairwise before) :
    (sightings path source rules suppression program).Pairwise fun first second =>
      before first.place second.place ∨
        first.place = second.place ∧ first.rule < second.rule := by
  rw [sightings, List.pairwise_flatMap]
  constructor
  · intro place _
    rw [placeSightings]
    split
    · exact List.Pairwise.nil
    · rename_i use _
      have increasing := pairwise_rule_useSightings path source rules suppression place use
      apply increasing.imp_of_mem
      intro first second firstMember secondMember less
      right
      exact ⟨(mem_useSightings_iff.mp firstMember).1.trans
        (mem_useSightings_iff.mp secondMember).1.symm, less⟩
  · apply ordered.imp
    intro firstPlace secondPlace placeBefore first firstMember second secondMember
    left
    rw [(mem_placeSightings_iff.mp firstMember).1, (mem_placeSightings_iff.mp secondMember).1]
    exact placeBefore

end

end DecoratorLint
