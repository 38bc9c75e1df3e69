import DecoratorLint.Toml.Reader

/-!
# Strings and keys

The four kinds of strings: in double quotes with escapes or in single quotes
without, on one line or, between three quotes, on several.  A key is a bare word
or a string on one line, and keys may be joined by points.
-/

namespace DecoratorLint.Toml

/-- Whether a character may stand in a string as itself. -/
def isTextChar (char : Char) : Bool :=
  char = '\t' || (0x20 ≤ char.toNat && char.toNat ≠ 0x7F)

/-- The value of a digit of base sixteen. -/
def hexValue? (char : Char) : Option Nat :=
  if char.isDigit then
    some (char.toNat - '0'.toNat)
  else if 'a' ≤ char ∧ char ≤ 'f' then
    some (char.toNat - 'a'.toNat + 10)
  else if 'A' ≤ char ∧ char ≤ 'F' then
    some (char.toNat - 'A'.toNat + 10)
  else
    none

/-- A number written with exactly as many hexadecimal digits as told; the
accumulator holds the value of the digits read so far. -/
def hexDigits : Nat → Nat → Reader Nat
  | 0, value => pure value
  | count + 1, value => do
      match hexValue? (← next) with
      | some digit => hexDigits count (16 * value + digit)
      | none => failure

/-- A character given by its code point, which has to be that of a character. -/
def codePoint (count : Nat) : Reader Char := do
  let code ← hexDigits count 0
  demand (decide code.isValidChar)
  return Char.ofNat code

/-- The character that an escape after a backslash stands for. -/
def escape : Reader Char := do
  match ← next with
  | 'b' => return '\x08'
  | 't' => return '\t'
  | 'n' => return '\n'
  | 'f' => return '\x0c'
  | 'r' => return '\r'
  | '"' => return '"'
  | '\\' => return '\\'
  | 'u' => codePoint 4
  | 'U' => codePoint 8
  | _ => failure

/-- A string in double quotes on one line, after its first quote. -/
def basicString : Reader String := do
  let chars ← collect do
    match ← next with
    | '"' => return none
    | '\\' => return some (← escape)
    | char =>
        demand (isTextChar char)
        return some char
  return String.ofList chars

/-- A string in single quotes on one line, after its first quote. -/
def literalString : Reader String := do
  let chars ← collect do
    let char ← next
    if char = '\x27' then
      return none
    else
      demand (isTextChar char)
      return some char
  return String.ofList chars

/-- A line end right after three opening quotes does not belong to the string. -/
def skipFirstLineEnd : Reader Unit := do
  let _ ← acceptLineEnd

/-- Blanks, at least one line end, and all blanks and line ends after it: what a
backslash at the end of a line takes away. -/
def joinLines : Reader Unit := do
  blanks
  demand (← acceptLineEnd)
  let _ ← collect do
    blanks
    if ← acceptLineEnd then return some () else return none

/-- The quotes at the end of a string on several lines: three close it, and one
or two before them belong to it.  Gives the quotes that belong to it, or nothing
when the string does not end here. -/
def closingQuotes (quote : Char) : Reader (Option (List Char)) := do
  let quotes := (← get).takeWhile (· = quote)
  let count := min quotes.length 5
  if 3 ≤ count then
    set ((← get).drop count)
    return some (quotes.take (count - 3))
  else
    return none

/-- A string on several lines after its opening quotes.  `special` reads what is
neither a quote nor a plain character. -/
def linesUntil (quote : Char) (special : Reader (Option (List Char))) :
    Nat → Reader (List Char)
  | 0 => failure
  | fuel + 1 => do
      match ← closingQuotes quote with
      | some quotes => return quotes
      | none =>
          if ← acceptLineEnd then
            return '\n' :: (← linesUntil quote special fuel)
          else
            match ← special with
            | some chars => return chars ++ (← linesUntil quote special fuel)
            | none =>
                let char ← next
                demand (isTextChar char)
                return char :: (← linesUntil quote special fuel)

/-- A string between three double quotes, after the first three. -/
def longBasicString : Reader String := do
  skipFirstLineEnd
  let text ← get
  let special : Reader (Option (List Char)) := do
    if ← accept "\\" then
      match ← peek with
      | some ' ' | some '\t' | some '\n' | some '\r' =>
          joinLines
          return some []
      | _ => return some [← escape]
    else
      return none
  return String.ofList (← linesUntil '"' special (text.length + 1))

/-- A string between three single quotes, after the first three. -/
def longLiteralString : Reader String := do
  skipFirstLineEnd
  let text ← get
  return String.ofList (← linesUntil '\x27' (pure none) (text.length + 1))

/-- A string of any kind. -/
def anyString : Reader String := do
  if ← accept "\"\"\"" then
    longBasicString
  else if ← accept "\x27\x27\x27" then
    longLiteralString
  else if ← accept "\"" then
    basicString
  else
    expect "\x27"
    literalString

/-- Whether a character may stand in a bare key. -/
def isBareKeyChar (char : Char) : Bool :=
  char.isAlphanum || char = '_' || char = '-'

/-- One key. -/
def simpleKey : Reader String := do
  if ← accept "\"" then
    basicString
  else if ← accept "\x27" then
    literalString
  else
    let chars ← takeWhile isBareKeyChar
    demand !chars.isEmpty
    return String.ofList chars

/-- How many keys may be joined by points, and how deep values may be nested:
less than this. -/
def depthLimit : Nat :=
  80

/-- Keys joined by points, with blanks around them. -/
def dottedKey : Reader (List String) := do
  blanks
  let first ← simpleKey
  blanks
  let rest ← collect do
    if ← accept "." then
      blanks
      let key ← simpleKey
      blanks
      return some key
    else
      return none
  demand (rest.length + 1 < depthLimit)
  return first :: rest

end DecoratorLint.Toml
