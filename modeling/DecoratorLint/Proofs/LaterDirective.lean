import DecoratorLint.Proofs.DirectiveMeaning

/-!
# Several directives on one line

A line may hold more than one directive.  The search stops at the leftmost of them, and
only that one is read: everything that it lists is suppressed, while an id that is listed
further right counts only if the leftmost directive lists it too or lists nothing.  So
the ids of a later directive can get lost.
-/

namespace DecoratorLint.Suppression

/-! ## Directives by their place -/

/-- The directive that starts behind a part of a line lists an id: a word of its list is
the id in upper case. -/
def ListsId (line before : List Char) (id : String) : Prop :=
  ∃ after list word, DirectiveAt line before after ∧ ListAfter after list ∧
    Text.IsWord isListSeparator list word ∧ id = String.ofList (word.map Char.toUpper)

/-- A directive starts behind this part of a line, and none further left. -/
def LeftmostAt (line before : List Char) : Prop :=
  (∃ after, DirectiveAt line before after) ∧
    ∀ other rest, DirectiveAt line other rest → before.length ≤ other.length

theorem listsId_iff {line before : List Char} {id : String} :
    ListsId line before id ↔ ∃ after, DirectiveAt line before after ∧ id ∈ directiveIds after := by
  simp only [ListsId, mem_directiveIds_iff, exists_and_left]

theorem LeftmostAt.unique {line first second : List Char} (firstLeftmost : LeftmostAt line first)
    (secondLeftmost : LeftmostAt line second) : first = second := by
  obtain ⟨⟨firstAfter, firstAt⟩, firstLeast⟩ := firstLeftmost
  obtain ⟨⟨secondAfter, secondAt⟩, secondLeast⟩ := secondLeftmost
  have same : first.length = second.length :=
    Nat.le_antisymm (firstLeast second secondAfter secondAt) (secondLeast first firstAfter firstAt)
  obtain ⟨_, _, firstShape⟩ := firstAt
  obtain ⟨_, _, secondShape⟩ := secondAt
  exact (List.append_inj (firstShape.symm.trans secondShape) same).1

/-- A directive before which there is no comment sign is the leftmost one. -/
theorem leftmostAt_of_not_mem {line before after : List Char}
    (directive : DirectiveAt line before after) (unsigned : '#' ∉ before) :
    LeftmostAt line before := by
  refine ⟨⟨after, directive⟩, ?_⟩
  intro other rest otherDirective
  obtain ⟨_, _, shape⟩ := directive
  obtain ⟨_, _, otherShape⟩ := otherDirective
  rw [shape] at otherShape
  by_contra shorter
  rcases List.append_eq_append_iff.mp otherShape with ⟨between, rfl, _⟩ | ⟨between, rfl, tail⟩
  · simp at shorter
  · cases between with
    | nil => simp at shorter
    | cons sign between =>
        have isSign : sign = '#' := (List.cons.inj tail).1.symm
        exact unsigned (by simp [isSign])

section

variable {line : List Char} (kept : ¬ TakesFileOut line)

include kept

/-- The ids that a line names are those that its leftmost directive lists. -/
theorem namesId_iff_leftmost {id : String} :
    NamesId line id ↔ ∃ first, LeftmostAt line first ∧ ListsId line first id := by
  constructor
  · rintro ⟨_, after, list, word, ⟨first, directive, least⟩, listed, isWord, upper⟩
    exact ⟨first, ⟨⟨after, directive⟩, least⟩, after, list, word, directive, listed, isWord, upper⟩
  · rintro ⟨first, ⟨_, least⟩, after, list, word, directive, listed, isWord, upper⟩
    exact ⟨kept, after, list, word, ⟨first, directive, least⟩, listed, isWord, upper⟩

theorem namesNone_iff_leftmost :
    NamesNone line ↔ ∃ first, LeftmostAt line first ∧ ∀ id, ¬ ListsId line first id := by
  constructor
  · rintro ⟨⟨_, after, first, directive, least⟩, silent⟩
    have leftmost : LeftmostAt line first := ⟨⟨after, directive⟩, least⟩
    refine ⟨first, leftmost, ?_⟩
    intro id listed
    exact silent id ((namesId_iff_leftmost kept).mpr ⟨first, leftmost, listed⟩)
  · rintro ⟨first, leftmost, silent⟩
    obtain ⟨⟨after, directive⟩, least⟩ := leftmost
    refine ⟨⟨kept, after, first, directive, least⟩, ?_⟩
    intro id named
    obtain ⟨other, otherLeftmost, listed⟩ := (namesId_iff_leftmost kept).mp named
    rw [otherLeftmost.unique ⟨⟨after, directive⟩, least⟩] at listed
    exact silent id listed

end

/-! ## What a directive achieves -/

theorem suppresses_iff_of_line {source : List Char} {index : Nat} {line : List Char}
    (present : (Text.lines source)[index]? = some line) (id : String) :
    (ofSource source).suppresses (index + 1) id = true ↔
      (∃ other ∈ Text.lines source, TakesFileOut other) ∨ NamesNone line ∨ NamesId line id := by
  rw [suppresses, Bool.or_eq_true, Bool.or_eq_true, List.contains_iff_mem, List.contains_iff_mem,
    skipsFile_iff_takesFileOut, mem_everyRule_iff_of_line present, mem_idsAt_iff_of_line present,
    or_assoc]

/-- An id that some directive of a line lists is suppressed there if that directive is the
leftmost of the line.  In general it is suppressed exactly when the file is taken out, or the
leftmost directive lists the id as well or lists none. -/
theorem suppresses_listed_iff_leftmost {source : List Char} {index : Nat} {line : List Char}
    (present : (Text.lines source)[index]? = some line) (kept : ¬ TakesFileOut line)
    {before : List Char} {id : String} (listed : ListsId line before id) :
    (LeftmostAt line before → (ofSource source).suppresses (index + 1) id = true) ∧
      ((ofSource source).suppresses (index + 1) id = true ↔
        (∃ other ∈ Text.lines source, TakesFileOut other) ∨
          ∃ first, LeftmostAt line first ∧
            (ListsId line first id ∨ ∀ other, ¬ ListsId line first other)) := by
  have spelled : (ofSource source).suppresses (index + 1) id = true ↔
      (∃ other ∈ Text.lines source, TakesFileOut other) ∨
        ∃ first, LeftmostAt line first ∧
          (ListsId line first id ∨ ∀ other, ¬ ListsId line first other) := by
    rw [suppresses_iff_of_line present, namesNone_iff_leftmost kept, namesId_iff_leftmost kept,
      ← exists_or]
    simp only [← and_or_left, or_comm]
  refine ⟨?_, spelled⟩
  intro leftmost
  exact spelled.mpr (.inr ⟨before, leftmost, .inl listed⟩)

/-- The left directive lists `A1` and `B2`, and the right one repeats the second of them. -/
theorem suppresses_listed_iff_leftmost_repeated :
    let line := "x # noqa: A1,b2 # noqa: c3 B2".toList
    (Text.lines line)[0]? = some line ∧ ¬ TakesFileOut line ∧
      LeftmostAt line "x ".toList ∧ ListsId line "x ".toList "A1" ∧
      ListsId line "x # noqa: A1,b2 ".toList "B2" ∧
      (ofSource line).suppresses 1 "A1" = true ∧ (ofSource line).suppresses 1 "B2" = true := by
  intro line
  have present : (Text.lines line)[0]? = some line := by decide +kernel
  have kept : ¬ TakesFileOut line := by
    rw [← isFileDirective_iff_takesFileOut]
    decide +kernel
  have space : AllBlank [' '] := by simp [AllBlank, Text.isBlank, Text.blankCodes]
  have left : DirectiveAt line "x ".toList ": A1,b2 # noqa: c3 B2".toList := ⟨[' '], space, rfl⟩
  have right : DirectiveAt line "x # noqa: A1,b2 ".toList ": c3 B2".toList := ⟨[' '], space, rfl⟩
  have leftmost : LeftmostAt line "x ".toList := leftmostAt_of_not_mem left (by decide)
  have listsFirst : ListsId line "x ".toList "A1" :=
    listsId_iff.mpr ⟨_, left, by decide +kernel⟩
  have listsSecond : ListsId line "x ".toList "B2" :=
    listsId_iff.mpr ⟨_, left, by decide +kernel⟩
  have repeats : ListsId line "x # noqa: A1,b2 ".toList "B2" :=
    listsId_iff.mpr ⟨_, right, by decide +kernel⟩
  have first := suppresses_listed_iff_leftmost present kept listsFirst
  have again := suppresses_listed_iff_leftmost present kept repeats
  refine ⟨present, kept, leftmost, listsFirst, repeats, first.1 leftmost, ?_⟩
  exact again.2.mpr (.inr ⟨_, leftmost, .inl listsSecond⟩)

/-- An id that a later directive lists can go unheard: here the left one is for another
tool, and the rule of the right one is not suppressed. -/
theorem not_suppresses_listed_later :
    let line := "@route  # noqa: E501  # noqa: ANN001".toList
    (Text.lines line)[0]? = some line ∧ ¬ TakesFileOut line ∧
      ListsId line "@route  # noqa: E501  ".toList "ANN001" ∧
      (ofSource line).suppresses 1 "ANN001" = false := by
  intro line
  have later : DirectiveAt line "@route  # noqa: E501  ".toList ": ANN001".toList :=
    ⟨[' '], by simp [AllBlank, Text.isBlank, Text.blankCodes], rfl⟩
  refine ⟨by decide +kernel, ?_, listsId_iff.mpr ⟨_, later, by decide +kernel⟩, by decide +kernel⟩
  rw [← isFileDirective_iff_takesFileOut]
  decide +kernel

end DecoratorLint.Suppression
