/-!
# Pieces and fragments of a text

Cutting a text at every separator, joining pieces with one, looking for a
fragment, and replacing every occurrence of a fragment from left to right.
-/

namespace DecoratorLint.Text

/-- The pieces between the separators of a text.  There is one piece more than
there are separators, so an empty text has one empty piece. -/
def pieces (isSeparator : Char → Bool) : List Char → List (List Char)
  | [] => [[]]
  | char :: rest =>
      if isSeparator char then
        [] :: pieces isSeparator rest
      else
        match pieces isSeparator rest with
        | [] => [[char]]
        | piece :: more => (char :: piece) :: more

@[simp]
theorem pieces_nil (isSeparator : Char → Bool) : pieces isSeparator [] = [[]] :=
  rfl

/-- A text has at least one piece. -/
theorem pieces_ne_nil (isSeparator : Char → Bool) (text : List Char) :
    pieces isSeparator text ≠ [] := by
  cases text with
  | nil => simp
  | cons char rest =>
      rw [pieces]
      split
      · simp
      · split <;> simp

/-- A text without separators is its only piece. -/
theorem pieces_of_free {isSeparator : Char → Bool} {word : List Char}
    (free : ∀ char ∈ word, isSeparator char = false) : pieces isSeparator word = [word] := by
  induction word with
  | nil => rfl
  | cons char word ih =>
      have inner := ih fun other member => free other (List.mem_cons_of_mem char member)
      simp [pieces, free char List.mem_cons_self, inner]

/-- A separator parts the pieces before it from those after it. -/
theorem pieces_append {isSeparator : Char → Bool} {separator : Char}
    (separates : isSeparator separator = true) (first rest : List Char) :
    pieces isSeparator (first ++ separator :: rest) =
      pieces isSeparator first ++ pieces isSeparator rest := by
  induction first with
  | nil => simp [pieces, separates]
  | cons char first ih =>
      rw [List.cons_append, pieces, pieces, ih]
      split
      · rfl
      · cases shape : pieces isSeparator first with
        | nil => exact absurd shape (pieces_ne_nil isSeparator first)
        | cons piece more => rfl

/-- The pieces of a string between the occurrences of one character. -/
def splitAt (separator : Char) (text : String) : List String :=
  (pieces (· = separator) text.toList).map String.ofList

/-- The pieces one after the other, with a separator between two of them. -/
def joined (separator : List Char) : List (List Char) → List Char
  | [] => []
  | [piece] => piece
  | piece :: more => piece ++ separator ++ joined separator more

@[simp]
theorem joined_nil (separator : List Char) : joined separator [] = [] :=
  rfl

@[simp]
theorem joined_singleton (separator piece : List Char) : joined separator [piece] = piece :=
  rfl

theorem joined_cons_cons (separator piece next : List Char) (more : List (List Char)) :
    joined separator (piece :: next :: more) =
      piece ++ separator ++ joined separator (next :: more) :=
  rfl

/-- The strings one after the other, with a separator between two of them. -/
def joinWith (separator : String) (parts : List String) : String :=
  String.ofList (joined separator.toList (parts.map String.toList))

/-- Whether a fragment occurs in a text without a gap. -/
def hasFragment (fragment : List Char) : List Char → Bool
  | [] => fragment.isEmpty
  | char :: rest => fragment.isPrefixOf (char :: rest) || hasFragment fragment rest

theorem hasFragment_iff {fragment text : List Char} :
    hasFragment fragment text = true ↔ fragment <:+: text := by
  induction text with
  | nil => simp [hasFragment]
  | cons char rest ih => simp [hasFragment, ih, List.infix_cons_iff]

/-- Whether one string occurs in another. -/
def contains (text fragment : String) : Bool :=
  hasFragment fragment.toList text.toList

/-- Replace every occurrence of a fragment, from left to right and without
overlap.  The counter tells how many characters of the last occurrence are
still to be dropped; inserted text is not looked at again. -/
def replaceFrom (fragment replacement : List Char) : Nat → List Char → List Char
  | _, [] => []
  | pending + 1, _ :: rest => replaceFrom fragment replacement pending rest
  | 0, char :: rest =>
      if fragment.isPrefixOf (char :: rest) then
        replacement ++ replaceFrom fragment replacement (fragment.length - 1) rest
      else
        char :: replaceFrom fragment replacement 0 rest

/-- Replace every occurrence of a non-empty fragment. -/
def replace (fragment replacement text : List Char) : List Char :=
  replaceFrom fragment replacement 0 text

@[simp]
theorem replace_nil (fragment replacement : List Char) : replace fragment replacement [] = [] :=
  rfl

/-- Replace every occurrence of a non-empty fragment of a string. -/
def replaceAll (text fragment replacement : String) : String :=
  String.ofList (replace fragment.toList replacement.toList text.toList)

end DecoratorLint.Text
