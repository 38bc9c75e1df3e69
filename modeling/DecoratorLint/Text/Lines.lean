/-!
# Lines of a text

A line ends with a line feed, which belongs to it, or with the text itself.
The content of a line is what stands before its terminator, `\n` or `\r\n`; a
carriage return anywhere else is an ordinary character.

Positions in a text are byte offsets of its UTF-8 form, and the line of an
offset is found by counting the line feeds before it.
-/

namespace DecoratorLint.Text

/-- The lines of a text with their terminators.  Together they are the text,
and none of them is empty. -/
def physicalLines : List Char → List (List Char)
  | [] => []
  | char :: rest =>
      if char = '\n' then
        [char] :: physicalLines rest
      else
        match physicalLines rest with
        | [] => [[char]]
        | line :: lines => (char :: line) :: lines

@[simp]
theorem physicalLines_nil : physicalLines [] = [] :=
  rfl

/-- Nothing of a text is lost in its lines. -/
@[simp]
theorem flatten_physicalLines (text : List Char) : (physicalLines text).flatten = text := by
  induction text with
  | nil => rfl
  | cons char rest ih =>
      rw [physicalLines]
      split
      · simp [ih]
      · cases hlines : physicalLines rest with
        | nil => simpa [hlines] using ih
        | cons line lines => simpa [hlines] using ih

/-- A line without its terminator: a final line feed goes, and with it one
carriage return before it. -/
def lineContent (line : List Char) : List Char :=
  match line.reverse with
  | '\n' :: '\r' :: rest => rest.reverse
  | '\n' :: rest => rest.reverse
  | _ => line

/-- The contents of the lines of a text, in order. -/
def lines (text : List Char) : List (List Char) :=
  (physicalLines text).map lineContent

@[simp]
theorem lines_nil : lines [] = [] :=
  rfl

/-- The number of bytes that a text takes in UTF-8. -/
def byteLength : List Char → Nat
  | [] => 0
  | char :: rest => char.utf8Size + byteLength rest

@[simp]
theorem byteLength_nil : byteLength [] = 0 :=
  rfl

@[simp]
theorem byteLength_cons (char : Char) (text : List Char) :
    byteLength (char :: text) = char.utf8Size + byteLength text :=
  rfl

@[simp]
theorem byteLength_append (first second : List Char) :
    byteLength (first ++ second) = byteLength first + byteLength second := by
  induction first with
  | nil => simp
  | cons char rest ih => simp [ih, Nat.add_assoc]

/-- The number of line feeds that start before a byte offset. -/
def lineFeedsBefore : List Char → Nat → Nat
  | [], _ => 0
  | char :: rest, offset =>
      if offset = 0 then
        0
      else
        (if char = '\n' then 1 else 0) + lineFeedsBefore rest (offset - char.utf8Size)

/-- The 1-based line of a byte offset; an offset past the end counts as the
end. -/
def lineOfOffset (text : List Char) (offset : Nat) : Nat :=
  lineFeedsBefore text offset + 1

end DecoratorLint.Text
