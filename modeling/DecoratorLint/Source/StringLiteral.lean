import DecoratorLint.Source.Placed

/-!
# String literals

A string literal is an optional prefix of letters, a quote, and everything up
to the matching quote.  A backslash keeps the next character from ending the
literal.  What the escapes inside mean is checked apart from where the literal
ends.
-/

namespace DecoratorLint.Source

/-- A string literal: what its prefix says, and the text between its quotes. -/
structure StringLiteral where
  isBytes : Bool := false
  isRaw : Bool := false
  isFormatted : Bool := false
  content : List Char
deriving Repr, DecidableEq

namespace StringLiteral

/-- Whether a character is a quote. -/
def isQuote (char : Char) : Bool :=
  char = '"' || char = '\x27'

/-- Whether a character is a given letter in either case. -/
def isLetter (letter char : Char) : Bool :=
  char.toLower = letter

/-- What a prefix of letters says about the literal after it; nothing when the
letters are no prefix. -/
def ofPrefix? : List Char → Option (List Char → StringLiteral)
  | [] => some fun content => { content }
  | [letter] =>
      if isLetter 'r' letter then
        some fun content => { isRaw := true, content }
      else if isLetter 'f' letter then
        some fun content => { isFormatted := true, content }
      else if isLetter 'b' letter then
        some fun content => { isBytes := true, content }
      else if isLetter 'u' letter then
        some fun content => { content }
      else
        none
  | [first, second] =>
      if (isLetter 'r' first && isLetter 'f' second) ||
          (isLetter 'f' first && isLetter 'r' second) then
        some fun content => { isRaw := true, isFormatted := true, content }
      else if (isLetter 'r' first && isLetter 'b' second) ||
          (isLetter 'b' first && isLetter 'r' second) then
        some fun content => { isRaw := true, isBytes := true, content }
      else
        none
  | _ => none

/-! ## Where a literal ends -/

/-- The content up to one closing quote, and the text after it.  A line end may
stand inside only after a backslash. -/
def untilQuote? (quote : Char) : List Placed → Option (List Char × List Placed)
  | [] => none
  | [last] => if last.char = quote then some ([], []) else none
  | first :: second :: rest =>
      if first.char = '\\' then
        (untilQuote? quote rest).map fun (content, left) =>
          (first.char :: second.char :: content, left)
      else if first.char = '\n' then
        none
      else if first.char = quote then
        some ([], second :: rest)
      else
        (untilQuote? quote (second :: rest)).map fun (content, left) =>
          (first.char :: content, left)

/-- The content up to three closing quotes, and the text after them. -/
def untilTripleQuote? (quote : Char) : List Placed → Option (List Char × List Placed)
  | first :: second :: rest =>
      if first.char = '\\' then
        (untilTripleQuote? quote rest).map fun (content, left) =>
          (first.char :: second.char :: content, left)
      else
        match Placed.afterWord? [quote, quote, quote] (first :: second :: rest) with
        | some left => some ([], left)
        | none =>
            (untilTripleQuote? quote (second :: rest)).map fun (content, left) =>
              (first.char :: content, left)
  | _ => none

/-- The content of a literal whose first quote starts the text, and the text
after its last quote. -/
def quoted? : List Placed → Option (List Char × List Placed)
  | [] => none
  | first :: rest =>
      let quote := first.char
      match Placed.afterWord? [quote, quote] rest with
      | some left => untilTripleQuote? quote left
      | none => untilQuote? quote rest

/-- The prefix letters at the start of a text that are followed by a quote, and
the text from that quote on. -/
def prefixed? : List Placed → Option ((List Char → StringLiteral) × List Placed)
  | first :: rest =>
      if isQuote first.char then
        (ofPrefix? []).map (·, first :: rest)
      else
        match rest with
        | second :: more =>
            if isQuote second.char then
              (ofPrefix? [first.char]).map (·, rest)
            else
              match more with
              | third :: _ =>
                  if isQuote third.char then
                    (ofPrefix? [first.char, second.char]).map (·, more)
                  else
                    none
              | [] => none
        | [] => none
  | [] => none

/-! ## Escapes -/

/-- Whether a character is an ASCII character. -/
def isAscii (char : Char) : Bool :=
  char.toNat < 128

/-- The value of a digit of base sixteen. -/
def hexValue? (char : Char) : Option Nat :=
  if char.isDigit then
    some (char.toNat - '0'.toNat)
  else if 'a' ≤ char ∧ char ≤ 'f' then
    some (char.toNat - 'a'.toNat + 10)
  else if 'A' ≤ char ∧ char ≤ 'F' then
    some (char.toNat - 'A'.toNat + 10)
  else
    none

/-- A code point written with a fixed number of hexadecimal digits, and the text
after them.  The accumulator holds the value of the digits read so far. -/
def codePoint? : Nat → Nat → List Char → Option (List Char)
  | 0, value, text => if value < 0x110000 then some text else none
  | _ + 1, _, [] => none
  | count + 1, value, digit :: rest =>
      match hexValue? digit with
      | some nibble => codePoint? count (16 * value + nibble) rest
      | none => none

/-- The text after a character name in braces.  Which names there are is not
decided here. -/
def characterName? : List Char → Option (List Char)
  | '{' :: rest =>
      match rest.dropWhile (· ≠ '}') with
      | _ :: left => some left
      | [] => none
  | _ => none

/-- The text after the escape that follows a backslash.  Escapes of code points
and of names need all of their parts; in a bytes literal only the two-digit one
exists, and an unknown escape has to be ASCII. -/
def escape? (isBytes : Bool) : List Char → Option (List Char)
  | [] => none
  | 'x' :: rest => codePoint? 2 0 rest
  | char :: rest =>
      if isBytes then
        if isAscii char then some rest else none
      else
        match char with
        | 'u' => codePoint? 4 0 rest
        | 'U' => codePoint? 8 0 rest
        | 'N' => characterName? rest
        | _ => some rest

/-- Whether the characters and escapes of a plain literal are in order.  The
counter bounds the number of steps by the length of the content. -/
def plainContent (isBytes isRaw : Bool) : Nat → List Char → Bool
  | _, [] => true
  | 0, _ :: _ => false
  | fuel + 1, char :: rest =>
      if char = '\\' && !isRaw then
        match escape? isBytes rest with
        | some left => plainContent isBytes isRaw fuel left
        | none => false
      else
        (!isBytes || isAscii char) && plainContent isBytes isRaw fuel rest

/-- Whether the content of a literal without replacement fields is in order. -/
def isPlain (literal : StringLiteral) : Bool :=
  plainContent literal.isBytes literal.isRaw literal.content.length literal.content

end StringLiteral

end DecoratorLint.Source
