/-!
# Blank characters

A character is blank when Unicode gives it the property `White_Space`.  The
same class decides what a comment may hold between its words, what surrounds a
decorator name on the command line, and what is cut from the ends of a source
line before it is shown.
-/

namespace DecoratorLint.Text

/-- The code points with the Unicode property `White_Space`: 25 of them, all in
the Basic Multilingual Plane. -/
def blankCodes : List Nat :=
  [0x09, 0x0A, 0x0B, 0x0C, 0x0D, 0x20, 0x85, 0xA0, 0x1680, 0x2000, 0x2001, 0x2002,
    0x2003, 0x2004, 0x2005, 0x2006, 0x2007, 0x2008, 0x2009, 0x200A, 0x2028, 0x2029,
    0x202F, 0x205F, 0x3000]

/-- Whether a character is Unicode white space. -/
def isBlank (char : Char) : Bool :=
  blankCodes.contains char.toNat

theorem isBlank_iff {char : Char} : isBlank char = true ↔ char.toNat ∈ blankCodes := by
  simp [isBlank]

/-- Drop the blank characters at both ends. -/
def trim (text : List Char) : List Char :=
  ((text.dropWhile isBlank).reverse.dropWhile isBlank).reverse

/-- The string without the blank characters at its two ends. -/
def trimmed (text : String) : String :=
  String.ofList (trim text.toList)

end DecoratorLint.Text
