import DecoratorLint.Proofs.Directive
import DecoratorLint.Proofs.Disabling
import DecoratorLint.Proofs.Sighting

/-!
# What is reported

Which violations there should be is said without walking through the program and
without counting: a decorator that occurs somewhere, a specification that is about
it, and a parameter that it lacks.  A run reports one violation for each such
decorator and specification, and no others.
-/

namespace DecoratorLint

open Source (Stmt Expr Place decoratorAt?)

/-- A sighting is due: its decorator occurs in the program, its specification is
enabled and about that decorator, one of the parameters is not given, and no comment
suppresses the rule on the line of the decorator. -/
inductive Due (path : String) (source : List Char) (specs : List RuleSpec)
    (disabled : List String) (program : List Stmt) : Sighting → Prop where
  | intro {place : Place} {index : Nat} {decorator : Expr} {use : Use} {spec : RuleSpec}
      (occurs : decoratorAt? program place = some decorator)
      (listed : specs[index]? = some spec)
      (enabled : spec.ruleId ∉ disabled)
      (lowers : Use.ofDecorator? decorator = some use)
      (named : spec.target = some use.simpleName)
      (lacks : ∃ parameter ∈ spec.parameters, parameter ∉ decorator.keywordNames)
      (heard : (Suppression.ofSource source).suppresses
        (Text.lineOfOffset source decorator.start) spec.ruleId = false) :
      Due path source specs disabled program
        { place, rule := index, violation := spec.complaint path source use }

/-- The violations are those of the sightings that are due, each of them once. -/
def ReportsExactly (due : Sighting → Prop) (violations : List Violation) : Prop :=
  ∃ reported : List Sighting,
    (reported.map fun sighting => (sighting.place, sighting.rule)).Nodup ∧
      (∀ sighting, sighting ∈ reported ↔ due sighting) ∧
        reported.map Sighting.violation = violations

/-- No two sightings have both the place and the rule in common. -/
theorem nodup_origin_sightings (path : String) (source : List Char) (rules : List Rule)
    (suppression : Suppression) (program : List Stmt) :
    ((sightings path source rules suppression program).map fun sighting =>
      (sighting.place, sighting.rule)).Nodup := by
  rw [List.Nodup, List.pairwise_map]
  apply (pairwise_sightings (Source.nodup_bodyPlaces program)).imp
  rintro first second (apart | ⟨_, less⟩) same
  · exact apart (congrArg Prod.fst same)
  · exact less.ne (congrArg Prod.snd same)

variable {path : String} {source : List Char} {specs : List RuleSpec} {disabled : List String}
  {program : List Stmt}

/-- The rule of a specification complains about a decorator that repeats no keyword
exactly when it is about that decorator and one of the parameters is not given. -/
theorem violation?_ofSpec_of_lowers {decorator : Expr} {use : Use} {spec : RuleSpec}
    {violation : Violation} (lowers : Use.ofDecorator? decorator = some use)
    (distinct : decorator.keywordNames.Nodup) :
    (Rule.ofSpec spec).violation? path source use = some violation ↔
      spec.target = some use.simpleName ∧
        (∃ parameter ∈ spec.parameters, parameter ∉ decorator.keywordNames) ∧
          violation = spec.complaint path source use := by
  obtain ⟨names, _⟩ := Use.of_ofDecorator?_eq_some lowers
  rw [← names] at distinct ⊢
  exact Rule.violation?_ofSpec_eq_some_iff distinct

/-- Where no decorator repeats a keyword, the reports of the rules of all
specifications that carry an enabled id are those that are due. -/
theorem reported_and_enabled_iff_due
    (distinct : ∀ place decorator, decoratorAt? program place = some decorator →
      decorator.keywordNames.Nodup) {sighting : Sighting} :
    sighting.Reported path source (specs.map Rule.ofSpec) (Suppression.ofSource source) program ∧
        sighting.violation.ruleId ∉ disabled ↔
      Due path source specs disabled program sighting := by
  constructor
  · rintro ⟨⟨decorator, use, rule, occurs, lowers, listed, found, heard⟩, enabled⟩
    obtain ⟨place, index, violation⟩ := sighting
    rw [List.getElem?_map, Option.map_eq_some_iff] at listed
    obtain ⟨spec, specListed, rfl⟩ := listed
    obtain ⟨named, lacks, rfl⟩ :=
      (violation?_ofSpec_of_lowers lowers (distinct place decorator occurs)).mp found
    refine Due.intro occurs specListed enabled lowers named lacks ?_
    rw [← (Use.of_ofDecorator?_eq_some lowers).2]
    exact heard
  · rintro ⟨occurs, specListed, enabled, lowers, named, lacks, heard⟩
    rename_i place index decorator use spec
    have listed : (specs.map Rule.ofSpec)[index]? = some (Rule.ofSpec spec) := by
      rw [List.getElem?_map, specListed, Option.map_some]
    have found : (Rule.ofSpec spec).violation? path source use =
        some (spec.complaint path source use) :=
      (violation?_ofSpec_of_lowers lowers (distinct place decorator occurs)).mpr
        ⟨named, lacks, rfl⟩
    rw [← (Use.of_ofDecorator?_eq_some lowers).2] at heard
    exact ⟨⟨decorator, use, Rule.ofSpec spec, occurs, lowers, listed, found, heard⟩, enabled⟩

theorem reportsExactly_programViolations
    (distinct : ∀ place decorator, decoratorAt? program place = some decorator →
      decorator.keywordNames.Nodup) :
    ReportsExactly (Due path source specs disabled program)
      (programViolations path source (activeRules specs disabled) (Suppression.ofSource source)
        program) := by
  -- The disabled specifications stay in the list, so that positions are positions
  -- among all specifications; what they find is taken out afterwards.
  let found := sightings path source (specs.map Rule.ofSpec) (Suppression.ofSource source) program
  let enabled := fun sighting : Sighting => !disabled.contains sighting.violation.ruleId
  refine ⟨found.filter enabled, ?_, ?_, ?_⟩
  · have nodup : (found.map fun sighting => (sighting.place, sighting.rule)).Nodup :=
      nodup_origin_sightings path source _ _ program
    exact nodup.sublist (List.filter_sublist.map _)
  · intro sighting
    rw [List.mem_filter, mem_sightings_iff, ← reported_and_enabled_iff_due distinct]
    simp [enabled]
  · rw [programViolations_activeRules, ← map_violation_sightings, List.filter_map]
    rfl

/-- A run over a text without a file directive reports, for each decorator that
occurs in the program and each position of a specification, one violation if it is
due there, and nothing else. -/
theorem reportsExactly_due (path source : String) (specs : List RuleSpec)
    (disabled : List String) (program : List Stmt)
    (unskipped : ∀ line ∈ Text.lines source.toList, Suppression.isFileDirective line = false)
    (distinct : ∀ place decorator, decoratorAt? program place = some decorator →
      decorator.keywordNames.Nodup) :
    ReportsExactly (Due path source.toList specs disabled program)
        (programViolations path source.toList (activeRules specs disabled)
          (Suppression.ofSource source.toList) program) ∧
      (Source.parse? source.toList = some program →
        (lintSource path source (activeRules specs disabled)).error? = none ∧
          ReportsExactly (Due path source.toList specs disabled program)
            (lintSource path source (activeRules specs disabled)).violations) := by
  have exactly : ReportsExactly (Due path source.toList specs disabled program)
      (programViolations path source.toList (activeRules specs disabled)
        (Suppression.ofSource source.toList) program) :=
    reportsExactly_programViolations distinct
  refine ⟨exactly, ?_⟩
  intro parsed
  have skips := Suppression.skipsFile_ofSource_eq_false unskipped
  constructor
  · simp [error?_lintSource, parsed]
  · rw [violations_lintSource_of_parse? path _ skips parsed]
    exact exactly

/-- A function whose `finally` holds a class with a decorator, on a line that
suppresses one of the rules. -/
theorem reportsExactly_due_in_finally :
    let source := "@job\ndef f():\n try: x\n finally:\n  @m.job(name=2) # noqa: Q2\n  class C: x\n"
    let specs : List RuleSpec :=
      [{ target := some "job", parameters := ["name", "queue"], id := some "Q1" },
        { target := some "job", parameters := ["queue"], id := some "Q2" },
        { target := some "job", parameters := ["limit"], id := some "Q3" }]
    let run := lintSource "run.py" source (activeRules specs ["Q3"])
    (∀ line ∈ Text.lines source.toList, Suppression.isFileDirective line = false) ∧
      ∃ program, Source.parse? source.toList = some program ∧
        (∀ place decorator, decoratorAt? program place = some decorator →
          decorator.keywordNames.Nodup) ∧
        ReportsExactly (Due "run.py" source.toList specs ["Q3"] program) run.violations ∧
        run.violations.map (fun violation => (violation.ruleId, violation.line)) =
          [("Q1", 1), ("Q2", 1), ("Q1", 5)] := by
  intro source specs run
  have unskipped : ∀ line ∈ Text.lines source.toList,
      Suppression.isFileDirective line = false := by
    decide +kernel
  have read : (Source.parse? source.toList).any (fun program =>
      decide (∀ decorator ∈ Source.bodyDecorators program, decorator.keywordNames.Nodup) &&
        decide ((programViolations "run.py" source.toList (activeRules specs ["Q3"])
            (Suppression.ofSource source.toList) program).map
          (fun violation => (violation.ruleId, violation.line)) =
            [("Q1", 1), ("Q2", 1), ("Q1", 5)])) = true := by
    decide +kernel
  obtain ⟨program, parsed, checked⟩ := (Option.any_eq_true _ _).mp read
  rw [Bool.and_eq_true, decide_eq_true_eq, decide_eq_true_eq] at checked
  obtain ⟨nodup, found⟩ := checked
  have distinct : ∀ place decorator, decoratorAt? program place = some decorator →
      decorator.keywordNames.Nodup := by
    intro place decorator occurs
    exact nodup decorator (Source.mem_bodyDecorators_iff.mpr ⟨place, occurs⟩)
  have exactly := reportsExactly_due "run.py" source specs ["Q3"] program unskipped distinct
  refine ⟨unskipped, program, parsed, distinct, (exactly.2 parsed).2, ?_⟩
  have skips := Suppression.skipsFile_ofSource_eq_false unskipped
  rw [violations_lintSource_of_parse? "run.py" _ skips parsed]
  exact found

end DecoratorLint
