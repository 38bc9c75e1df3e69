import DecoratorLint.Suppression
import Mathlib.Data.List.TakeWhile

/-!
# What the lines of a text suppress

Every line of a text has its own say, and what it says goes under its number.  So
what a text suppresses can be read off its lines one by one: whether one of them
takes the file out, which of them speak about every rule, and which about some.
-/

namespace DecoratorLint.Suppression

/-! ## Finding the directive of a line -/

theorem afterWord?_eq_some_iff {word text after : List Char} :
    afterWord? word text = some after ↔ text = word ++ after := by
  rw [afterWord?]
  constructor
  · intro found
    split at found
    · rename_i starts
      obtain ⟨rest, rfl⟩ := List.isPrefixOf_iff_prefix.mp starts
      rw [List.drop_left] at found
      rw [Option.some.inj found]
    · contradiction
  · rintro rfl
    rw [if_pos (List.isPrefixOf_iff_prefix.mpr (List.prefix_append word after)), List.drop_left]

/-- A word that starts with a visible character is found behind blanks and nothing
else. -/
theorem afterBlanks?_eq_some_iff {letter : Char} {word text after : List Char}
    (visible : Text.isBlank letter = false) :
    afterBlanks? (letter :: word) text = some after ↔
      ∃ blanks, (∀ char ∈ blanks, Text.isBlank char = true) ∧
        text = blanks ++ (letter :: word) ++ after := by
  rw [afterBlanks?, afterWord?_eq_some_iff]
  constructor
  · intro dropped
    refine ⟨text.takeWhile Text.isBlank, fun char member => List.mem_takeWhile_imp member, ?_⟩
    rw [List.append_assoc, ← dropped, List.takeWhile_append_dropWhile]
  · rintro ⟨blanks, blank, rfl⟩
    rw [List.append_assoc, List.dropWhile_append_of_pos blank, List.cons_append,
      List.dropWhile_cons_of_neg (by simp [visible])]

/-- A directive stands somewhere in a line: a comment sign, blanks and `noqa`. -/
def HoldsDirective (line : List Char) : Prop :=
  ∃ before blanks after, (∀ char ∈ blanks, Text.isBlank char = true) ∧
    line = before ++ '#' :: (blanks ++ "noqa".toList ++ after)

theorem holdsDirective_cons_iff {char : Char} {rest : List Char} :
    HoldsDirective (char :: rest) ↔
      (char = '#' ∧ ∃ after, afterBlanks? "noqa".toList rest = some after) ∨
        HoldsDirective rest := by
  have visible : Text.isBlank 'n' = false := by decide
  constructor
  · rintro ⟨before, blanks, after, blank, shape⟩
    cases before with
    | nil =>
        obtain ⟨rfl, rfl⟩ := List.cons.inj shape
        exact Or.inl ⟨rfl, after, (afterBlanks?_eq_some_iff visible).mpr ⟨blanks, blank, rfl⟩⟩
    | cons first before =>
        obtain ⟨rfl, rfl⟩ := List.cons.inj shape
        exact Or.inr ⟨before, blanks, after, blank, rfl⟩
  · rintro (⟨rfl, after, found⟩ | ⟨before, blanks, after, blank, rfl⟩)
    · obtain ⟨blanks, blank, rfl⟩ := (afterBlanks?_eq_some_iff visible).mp found
      exact ⟨[], blanks, after, blank, rfl⟩
    · exact ⟨char :: before, blanks, after, blank, rfl⟩

/-- The search for a directive fails exactly on the lines that hold none. -/
theorem afterDirective?_eq_none_iff {line : List Char} :
    afterDirective? line = none ↔ ¬ HoldsDirective line := by
  induction line with
  | nil =>
      have bare : ¬ HoldsDirective [] := by
        rintro ⟨before, blanks, after, _, shape⟩
        simp at shape
      simp [afterDirective?, bare]
  | cons char rest ih =>
      rw [holdsDirective_cons_iff, not_or, ← ih, afterDirective?]
      by_cases sign : char = '#'
      · cases found : afterBlanks? "noqa".toList rest with
        | none => simp [sign]
        | some after => simp [sign]
      · simp [sign]

/-! ## One line -/

/-- The ids in the directive of a line; without an id it is about every rule.  A
line that takes the file out has no directive of its own. -/
def lineIds? (line : List Char) : Option (List String) :=
  if isFileDirective line then none else (afterDirective? line).map directiveIds

/-- The number of a line that suppresses every rule. -/
def everyRuleNumber? (entry : List Char × Nat) : Option Nat :=
  match lineIds? entry.1 with
  | some [] => some entry.2
  | _ => none

/-- The ids in the directive of a line that names some. -/
def namedIds? (line : List Char) : Option (List String) :=
  match lineIds? line with
  | some (id :: ids) => some (id :: ids)
  | _ => none

/-- The number of a line that suppresses some rules, with their ids. -/
def someRulesItem? (entry : List Char × Nat) : Option (Nat × List String) :=
  (namedIds? entry.1).map fun ids => (entry.2, ids)

theorem everyRuleNumber?_eq_some_iff {line : List Char} {number found : Nat} :
    everyRuleNumber? (line, number) = some found ↔ lineIds? line = some [] ∧ found = number := by
  rw [everyRuleNumber?]
  split
  · rename_i silent
    simp [silent, eq_comm]
  · rename_i other
    simp only [reduceCtorEq, false_iff, not_and]
    intro silent
    exact absurd silent other

/-- The step from one line to the next. -/
theorem addLine_eq (suppression : Suppression) (number : Nat) (line : List Char) :
    suppression.addLine number line =
      { skipsFile := suppression.skipsFile || isFileDirective line
        everyRule := suppression.everyRule ++ (everyRuleNumber? (line, number)).toList
        someRules := suppression.someRules ++ (someRulesItem? (line, number)).toList } := by
  rw [addLine]
  by_cases fileDirective : isFileDirective line = true
  · simp [fileDirective, everyRuleNumber?, someRulesItem?, namedIds?, lineIds?]
  · cases directive : afterDirective? line with
    | none => simp [fileDirective, everyRuleNumber?, someRulesItem?, namedIds?, lineIds?, directive]
    | some after =>
        cases ids : directiveIds after <;>
          simp [fileDirective, everyRuleNumber?, someRulesItem?, namedIds?, lineIds?, directive,
            ids]

/-! ## All lines -/

/-- The run over all lines, the first of which has the given number. -/
theorem addLines_eq (suppression : Suppression) (number : Nat) (lines : List (List Char)) :
    suppression.addLines number lines =
      { skipsFile := suppression.skipsFile || lines.any isFileDirective
        everyRule := suppression.everyRule ++ (lines.zipIdx number).filterMap everyRuleNumber?
        someRules := suppression.someRules ++ (lines.zipIdx number).filterMap someRulesItem? } := by
  induction lines generalizing suppression number with
  | nil => simp [addLines]
  | cons line rest ih =>
      rw [addLines, ih, addLine_eq]
      simp [List.zipIdx_cons, List.filterMap_cons, Bool.or_assoc]
      constructor
      · cases everyRuleNumber? (line, number) <;> rfl
      · cases someRulesItem? (line, number) <;> rfl

theorem ofSource_eq (source : List Char) :
    ofSource source =
      { skipsFile := (Text.lines source).any isFileDirective
        everyRule := ((Text.lines source).zipIdx 1).filterMap everyRuleNumber?
        someRules := ((Text.lines source).zipIdx 1).filterMap someRulesItem? } := by
  rw [ofSource, addLines_eq]
  rfl

/-- A text takes itself out exactly when one of its lines says so. -/
theorem skipsFile_ofSource_iff {source : List Char} :
    (ofSource source).skipsFile = true ↔
      ∃ line ∈ Text.lines source, isFileDirective line = true := by
  rw [ofSource_eq, List.any_eq_true]

theorem skipsFile_ofSource_eq_false_iff {source : List Char} :
    (ofSource source).skipsFile = false ↔
      ∀ line ∈ Text.lines source, isFileDirective line = false := by
  rw [ofSource_eq, List.any_eq_false]
  simp only [Bool.not_eq_true]

theorem skipsFile_ofSource_eq_false {source : List Char}
    (unskipped : ∀ line ∈ Text.lines source, isFileDirective line = false) :
    (ofSource source).skipsFile = false :=
  skipsFile_ofSource_eq_false_iff.mpr unskipped

theorem mem_everyRule_ofSource_iff {source : List Char} {number : Nat} :
    number ∈ (ofSource source).everyRule ↔
      1 ≤ number ∧ (Text.lines source)[number - 1]?.bind lineIds? = some [] := by
  rw [ofSource_eq, List.mem_filterMap]
  simp only [Prod.exists, List.mem_zipIdx_iff_le_and_getElem?_sub, everyRuleNumber?_eq_some_iff,
    Option.bind_eq_some_iff]
  constructor
  · rintro ⟨line, index, ⟨positive, present⟩, silent, rfl⟩
    exact ⟨positive, line, present, silent⟩
  · rintro ⟨positive, line, present, silent⟩
    exact ⟨line, number, ⟨positive, present⟩, silent, rfl⟩

theorem lookup_filterMap_someRulesItem? (lines : List (List Char)) (start number : Nat) :
    ((lines.zipIdx start).filterMap someRulesItem?).lookup number =
      if start ≤ number then lines[number - start]?.bind namedIds? else none := by
  induction lines generalizing start with
  | nil => simp
  | cons line rest ih =>
      have later := ih (start + 1)
      rw [List.zipIdx_cons, List.filterMap_cons, someRulesItem?]
      rcases Nat.lt_trichotomy number start with early | rfl | late
      · rw [if_neg (by omega)] at later ⊢
        have apart : (number == start) = false := by simp; omega
        cases namedIds? line <;> simp [List.lookup_cons, apart, later]
      · rw [if_neg (by omega)] at later
        cases said : namedIds? line <;> simp [later, said]
      · have apart : (number == start) = false := by simp; omega
        have position : number - start = number - (start + 1) + 1 := by omega
        rw [if_pos (by omega)] at later ⊢
        rw [position, List.getElem?_cons_succ]
        cases namedIds? line <;> simp [List.lookup_cons, apart, later]

/-- The rules that are suppressed one by one on a line are those that its directive
names. -/
theorem lookup_someRules_ofSource (source : List Char) (number : Nat) :
    (ofSource source).someRules.lookup number =
      if 1 ≤ number then (Text.lines source)[number - 1]?.bind namedIds? else none := by
  rw [ofSource_eq, lookup_filterMap_someRulesItem?]

end DecoratorLint.Suppression
