import DecoratorLint.Proofs.Verdict

/-!
# Missing names against repeated names

A rule compares two counts, and a required name that is given twice counts twice.  So
a repetition makes up for a missing name: the rule speaks up exactly when more
required names are missing than there are repetitions of required names.  Which
arguments a use has besides, and in which order, plays no part.
-/

namespace DecoratorLint

namespace Rule

/-! ## The balance of the counts -/

/-- How many required names a use does not give. -/
def missingCount (rule : Rule) (use : Use) : Nat :=
  (rule.required.filter (· ∉ use.parameterNames)).length

/-- How often a use repeats required names: for each that it gives, all occurrences
but one. -/
def surplusCount (rule : Rule) (use : Use) : Nat :=
  ((rule.required.filter (· ∈ use.parameterNames)).map fun name =>
    use.parameterNames.count name - 1).sum

theorem sum_count_add_missing (required names : List String) :
    (required.map fun name => names.count name).sum + (required.filter (· ∉ names)).length =
      required.length +
        ((required.filter (· ∈ names)).map fun name => names.count name - 1).sum := by
  induction required with
  | nil => rfl
  | cons first rest ih =>
      rw [List.map_cons, List.sum_cons, List.length_cons]
      by_cases given : first ∈ names
      · have occurs : 0 < names.count first := List.count_pos_iff.mpr given
        rw [List.filter_cons_of_neg (by simpa using given),
          List.filter_cons_of_pos (by simpa using given), List.map_cons, List.sum_cons]
        omega
      · have absent : names.count first = 0 := List.count_eq_zero.mpr given
        rw [List.filter_cons_of_pos (by simpa using given),
          List.filter_cons_of_neg (by simpa using given), List.length_cons]
        omega

/-- What is found and what is missing make up what is required and what is repeated. -/
theorem foundCount_add_missingCount {rule : Rule} (nodup : rule.required.Nodup) (use : Use) :
    rule.foundCount use + rule.missingCount use =
      rule.required.length + rule.surplusCount use := by
  rw [foundCount_eq_sum nodup]
  exact sum_count_add_missing rule.required use.parameterNames

theorem foundCount_lt_length_iff_surplusCount_lt {rule : Rule} (nodup : rule.required.Nodup)
    (use : Use) :
    rule.foundCount use < rule.required.length ↔
      rule.surplusCount use < rule.missingCount use := by
  have balance := foundCount_add_missingCount nodup use
  omega

theorem isSome_verdict?_iff_foundCount_lt {rule : Rule} {use : Use} :
    (rule.verdict? use).isSome = true ↔
      rule.target = some use.simpleName ∧ rule.foundCount use < rule.required.length := by
  rw [Option.isSome_iff_exists]
  constructor
  · rintro ⟨text, verdict⟩
    obtain ⟨named, short, _⟩ := verdict?_eq_some_iff.mp verdict
    exact ⟨named, short⟩
  · rintro ⟨named, short⟩
    exact ⟨rule.message, verdict?_eq_some_iff.mpr ⟨named, short, rfl⟩⟩

theorem missingCount_eq_zero_iff {rule : Rule} {use : Use} :
    rule.missingCount use = 0 ↔ ∀ name ∈ rule.required, name ∈ use.parameterNames := by
  rw [missingCount, List.length_eq_zero_iff, List.filter_eq_nil_iff]
  simp

/-! ## Arguments that do not count -/

/-- Whether an argument gives a required name. -/
def counts (rule : Rule) (argument : Argument) : Bool :=
  argument.name?.any rule.required.contains

theorem foundCount_eq_countP (rule : Rule) (use : Use) :
    rule.foundCount use = use.arguments.countP rule.counts := by
  rw [foundCount, Use.parameterNames, List.countP_filterMap]
  congr 1
  funext argument
  cases argument <;> rfl

theorem counts_eq_false_of_ne {rule : Rule} {argument : Argument}
    (idle : ∀ name ∈ rule.required, argument ≠ .pair name) : rule.counts argument = false := by
  cases argument with
  | value => rfl
  | unpacked => rfl
  | pair name =>
      rw [counts, Argument.name?, Option.any_some, Bool.eq_false_iff]
      intro required
      exact idle name (List.contains_iff_mem.mp required) rfl

/-- The arguments of two uses differ only in their order and in arguments that give no
required name: positional values, unpacked ones and pairs with other names. -/
inductive Rearranged (rule : Rule) : List Argument → List Argument → Prop where
  | reordered {arguments others : List Argument} (same : arguments.Perm others) :
      Rearranged rule arguments others
  | added {argument : Argument} {arguments : List Argument}
      (idle : ∀ name ∈ rule.required, argument ≠ .pair name) :
      Rearranged rule arguments (argument :: arguments)
  | removed {argument : Argument} {arguments : List Argument}
      (idle : ∀ name ∈ rule.required, argument ≠ .pair name) :
      Rearranged rule (argument :: arguments) arguments
  | trans {arguments middle others : List Argument} (first : Rearranged rule arguments middle)
      (second : Rearranged rule middle others) : Rearranged rule arguments others

theorem Rearranged.countP_eq {rule : Rule} {arguments others : List Argument}
    (rearranged : rule.Rearranged arguments others) :
    arguments.countP rule.counts = others.countP rule.counts := by
  induction rearranged with
  | reordered same => exact same.countP_eq rule.counts
  | added idle => rw [List.countP_cons_of_neg (by simp [counts_eq_false_of_ne idle])]
  | removed idle => rw [List.countP_cons_of_neg (by simp [counts_eq_false_of_ne idle])]
  | trans first second firstEqual secondEqual => exact firstEqual.trans secondEqual

/-- A rule, which requires each name once, speaks up exactly when it is about the decorator
and more required names are missing than required names are repeated.  So it is silent
when none is missing; where no name is given twice, it speaks up if one is missing; and
its verdict stays when arguments are reordered, and when arguments that give no required
name come or go. -/
theorem speaks_iff_surplusCount_lt {rule : Rule} (nodup : rule.required.Nodup)
    (use : Use) :
    ((rule.verdict? use).isSome = true ↔
      rule.target = some use.simpleName ∧ rule.surplusCount use < rule.missingCount use) ∧
    ((∀ name ∈ rule.required, name ∈ use.parameterNames) → rule.verdict? use = none) ∧
    (use.parameterNames.Nodup →
      ((rule.verdict? use).isSome = true ↔
        rule.target = some use.simpleName ∧
          ∃ name ∈ rule.required, name ∉ use.parameterNames)) ∧
    ∀ arguments, rule.Rearranged use.arguments arguments →
      rule.verdict? { use with arguments } = rule.verdict? use := by
  have balance := foundCount_lt_length_iff_surplusCount_lt nodup use
  refine ⟨?_, ?_, ?_, ?_⟩
  · rw [isSome_verdict?_iff_foundCount_lt, balance]
  · intro complete
    have noneMissing := missingCount_eq_zero_iff.mpr complete
    rw [← Option.not_isSome_iff_eq_none, isSome_verdict?_iff_foundCount_lt, balance]
    omega
  · intro distinct
    rw [isSome_verdict?_iff_foundCount_lt, foundCount_lt_length_iff nodup distinct]
  · intro arguments rearranged
    have found : rule.foundCount { use with arguments } = rule.foundCount use := by
      rw [foundCount_eq_countP, foundCount_eq_countP]
      exact rearranged.countP_eq.symm
    rw [verdict?, verdict?, found]
    rfl

/-- A name that is given twice hides a missing one, and it still does after the arguments
have been reordered and a value has been added.  Given once, it does not; and when no name
is missing, a repetition changes nothing. -/
theorem speaks_iff_surplusCount_lt_given_twice :
    let rule : Rule :=
      { template := "", target := some "route", required := ["endpoint", "methods"] }
    let use (arguments : List Argument) : Use := { head := .simple "route", arguments, offset := 1 }
    let twice := [.pair "methods", .pair "path", .pair "methods"]
    rule.missingCount (use twice) = 1 ∧ rule.surplusCount (use twice) = 1 ∧
      rule.verdict? (use twice) = none ∧
      rule.verdict? (use [.value, .pair "path", .pair "methods", .pair "methods"]) = none ∧
      (rule.verdict? (use [.pair "methods"])).isSome = true ∧
      rule.verdict? (use [.pair "methods", .pair "endpoint", .pair "methods"]) = none := by
  intro rule use twice
  have nodup : rule.required.Nodup := by decide
  obtain ⟨speaks, _, _, stays⟩ := speaks_iff_surplusCount_lt nodup (use twice)
  have rearranged : rule.Rearranged twice
      [.value, .pair "path", .pair "methods", .pair "methods"] :=
    .trans (.reordered (by decide)) (.added (by decide))
  have silent : rule.verdict? (use twice) = none := by
    rw [← Option.not_isSome_iff_eq_none, speaks]
    decide
  obtain ⟨_, _, once, _⟩ := speaks_iff_surplusCount_lt nodup (use [.pair "methods"])
  obtain ⟨_, complete, _, _⟩ := speaks_iff_surplusCount_lt nodup
    (use [.pair "methods", .pair "endpoint", .pair "methods"])
  refine ⟨by decide, by decide, silent, (stays _ rearranged).trans silent, ?_, ?_⟩
  · exact (once (by decide)).mpr ⟨rfl, by decide⟩
  · exact complete (by decide)

end Rule

end DecoratorLint
