import DecoratorLint.Text.Lines

/-!
# Shortening a line

A line that is shown in a record is cut after a number of characters, and three
dots mark the cut.  The cut is made at a byte offset, which is the end of a
whole number of characters.
-/

namespace DecoratorLint.Text

/-- The byte offset at which the character of the given index starts, if the
text has that many characters and one more. -/
def offsetOfChar? : List Char → Nat → Option Nat
  | [], _ => none
  | _ :: _, 0 => some 0
  | char :: rest, index + 1 => (offsetOfChar? rest index).map (char.utf8Size + ·)

/-- The longest run of whole characters from the start that fits in a number of
bytes. -/
def takeBytes : List Char → Nat → List Char
  | [], _ => []
  | char :: rest, bytes =>
      if char.utf8Size ≤ bytes then
        char :: takeBytes rest (bytes - char.utf8Size)
      else
        []

/-- What is written where a text was cut. -/
def ellipsis : List Char :=
  ['.', '.', '.']

/-- A text of at most `limit` characters as it is, a longer one cut after that
many and marked with dots. -/
def truncate (text : List Char) (limit : Nat) : List Char :=
  match offsetOfChar? text limit with
  | none => text
  | some offset => takeBytes text offset ++ ellipsis

/-- `truncate` on strings. -/
def truncated (text : String) (limit : Nat) : String :=
  String.ofList (truncate text.toList limit)

end DecoratorLint.Text
