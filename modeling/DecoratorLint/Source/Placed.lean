/-!
# Characters in their places

The characters of a source text with the byte offsets at which they start.  A
carriage return, alone or before a line feed, reads as a line feed, so that
every later stage knows one line end only while the offsets stay those of the
text as it was written.
-/

namespace DecoratorLint.Source

/-- A character and the byte offset at which it starts. -/
structure Placed where
  char : Char
  offset : Nat
deriving Repr, DecidableEq

namespace Placed

/-- Place the characters of a text that starts at a byte offset. -/
def place : Nat → List Char → List Placed
  | _, [] => []
  | offset, '\r' :: '\n' :: rest => ⟨'\n', offset⟩ :: place (offset + 2) rest
  | offset, '\r' :: rest => ⟨'\n', offset⟩ :: place (offset + 1) rest
  | offset, char :: rest => ⟨char, offset⟩ :: place (offset + char.utf8Size) rest

/-- Place the characters of a whole source text.  A byte order mark at its
start takes three bytes and is no character of the program. -/
def ofSource : List Char → List Placed
  | '\uFEFF' :: rest => place 3 rest
  | source => place 0 source

/-- The characters alone. -/
def chars (text : List Placed) : List Char :=
  text.map Placed.char

/-- The characters from the start that satisfy a test, and the text after
them. -/
def span (test : Char → Bool) : List Placed → List Char × List Placed
  | [] => ([], [])
  | first :: rest =>
      if test first.char then
        let (taken, left) := span test rest
        (first.char :: taken, left)
      else
        ([], first :: rest)

/-- The text after a given word, if it starts with that word. -/
def afterWord? : List Char → List Placed → Option (List Placed)
  | [], text => some text
  | _ :: _, [] => none
  | char :: word, first :: rest => if first.char = char then afterWord? word rest else none

end Placed

end DecoratorLint.Source
