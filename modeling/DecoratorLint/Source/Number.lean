import DecoratorLint.Source.Placed

/-!
# Number literals

Reading a number at the start of a text.  The value of a number is never
looked at, so a literal is read only for its extent: the result is the text
after it, or nothing when the literal is malformed.

An underscore may stand between two digits.  After the digits of a whole number
the scan simply stops, so that `1if` is a number followed by a word.
-/

namespace DecoratorLint.Source.Number

/-- A run of digits, with single underscores allowed before a digit.  The
result holds the digits without the underscores and the text after the run. -/
def digitRun (isDigit : Char → Bool) : List Placed → List Char × List Placed
  | [] => ([], [])
  | [last] => if isDigit last.char then ([last.char], []) else ([], [last])
  | first :: second :: rest =>
      if isDigit first.char then
        let (digits, left) := digitRun isDigit (second :: rest)
        (first.char :: digits, left)
      else if first.char = '_' && isDigit second.char then
        digitRun isDigit (second :: rest)
      else
        ([], first :: second :: rest)

/-- Whether a character is a digit of base sixteen. -/
def isHexDigit (char : Char) : Bool :=
  char.isDigit || ('a' ≤ char && char ≤ 'f') || ('A' ≤ char && char ≤ 'F')

/-- Whether a character is a digit of base eight. -/
def isOctalDigit (char : Char) : Bool :=
  '0' ≤ char && char ≤ '7'

/-- Whether a character is a digit of base two. -/
def isBinaryDigit (char : Char) : Bool :=
  char = '0' || char = '1'

/-- Digits of a base after its mark; there has to be one. -/
def basedDigits? (isDigit : Char → Bool) (text : List Placed) : Option (List Placed) :=
  match digitRun isDigit text with
  | ([], _) => none
  | (_ :: _, left) => some left

/-- Whether the text starts with the given character. -/
def startsWith (char : Char) : List Placed → Bool
  | [] => false
  | first :: _ => first.char = char

/-- Whether the text starts with an exponent that has a digit. -/
def atExponent : List Placed → Bool
  | mark :: sign :: rest =>
      (mark.char = 'e' || mark.char = 'E') &&
        (sign.char.isDigit ||
          ((sign.char = '+' || sign.char = '-') &&
            match rest with
            | [] => false
            | digit :: _ => digit.char.isDigit))
  | _ => false

/-- The digits of an exponent after its mark and sign; there has to be one, and
an underscore may not come first. -/
def exponentDigits? (text : List Placed) : Option (List Placed) :=
  if startsWith '_' text then none else basedDigits? Char.isDigit text

/-- The exponent, if the text starts with the mark of one. -/
def exponent? : List Placed → Option (List Placed)
  | [] => some []
  | mark :: rest =>
      if mark.char = 'e' || mark.char = 'E' then
        match rest with
        | sign :: digits =>
            if sign.char = '+' || sign.char = '-' then
              exponentDigits? digits
            else
              exponentDigits? rest
        | [] => none
      else
        some (mark :: rest)

/-- The text after an imaginary mark, if there is one. -/
def dropImaginary : List Placed → List Placed
  | [] => []
  | mark :: rest => if mark.char = 'j' || mark.char = 'J' then rest else mark :: rest

/-- A number in base ten: whole, with a fraction, with an exponent, imaginary.
A whole number that starts with zero is zero. -/
def decimal? (text : List Placed) : Option (List Placed) :=
  let (digits, left) := digitRun Char.isDigit text
  if startsWith '.' left then
    let fraction := left.drop 1
    if startsWith '_' fraction then
      none
    else
      (exponent? (digitRun Char.isDigit fraction).2).map dropImaginary
  else if atExponent left then
    (exponent? left).map dropImaginary
  else
    let isImaginary := startsWith 'j' left || startsWith 'J' left
    if !isImaginary && startsWith '0' text && digits.any (· ≠ '0') then
      none
    else
      some (dropImaginary left)

/-- The text after the number at the start of a text. -/
def scan? : List Placed → Option (List Placed)
  | zero :: mark :: rest =>
      if zero.char = '0' && (mark.char = 'x' || mark.char = 'X') then
        basedDigits? isHexDigit rest
      else if zero.char = '0' && (mark.char = 'o' || mark.char = 'O') then
        basedDigits? isOctalDigit rest
      else if zero.char = '0' && (mark.char = 'b' || mark.char = 'B') then
        basedDigits? isBinaryDigit rest
      else
        decimal? (zero :: mark :: rest)
  | text => decimal? text

end DecoratorLint.Source.Number
