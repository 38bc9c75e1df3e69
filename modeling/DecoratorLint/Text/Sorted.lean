/-!
# Sorted lists of distinct strings

Sets of names are kept as strictly increasing lists.  Strings are compared
character by character, by code point.
-/

namespace DecoratorLint.Text

/-- Put a string into a strictly increasing list; one that is there already is
not added. -/
def insertSorted (item : String) : List String → List String
  | [] => [item]
  | first :: rest =>
      if item < first then
        item :: first :: rest
      else if item = first then
        first :: rest
      else
        first :: insertSorted item rest

/-- The strictly increasing list of the strings that occur in a list. -/
def sortedUnique (items : List String) : List String :=
  items.foldr insertSorted []

@[simp]
theorem sortedUnique_nil : sortedUnique [] = [] :=
  rfl

@[simp]
theorem sortedUnique_cons (item : String) (items : List String) :
    sortedUnique (item :: items) = insertSorted item (sortedUnique items) :=
  rfl

theorem mem_insertSorted {item other : String} {items : List String} :
    other ∈ insertSorted item items ↔ other = item ∨ other ∈ items := by
  induction items with
  | nil => simp [insertSorted]
  | cons first rest ih =>
      rw [insertSorted]
      split
      · simp
      · split
        · next heq => subst heq; simp
        · simp [ih, or_left_comm]

/-- Sorting keeps exactly the strings that occur. -/
theorem mem_sortedUnique {other : String} {items : List String} :
    other ∈ sortedUnique items ↔ other ∈ items := by
  induction items with
  | nil => simp
  | cons item items ih => simp [mem_insertSorted, ih]

end DecoratorLint.Text
