import DecoratorLint.Json.Value
import DecoratorLint.Text.Decimal

/-!
# Writing JSON

Two layouts of a JSON value: the compact one on a single line without spaces, and
one with a line for every item and two spaces for every level.  In strings the
quote, the backslash and the control characters are escaped, and nothing else.
-/

namespace DecoratorLint.Json

/-- The digit of base sixteen with the given value, in lower case. -/
def hexDigit (value : Nat) : Char :=
  if value < 10 then Char.ofNat ('0'.toNat + value) else Char.ofNat ('a'.toNat + (value - 10))

/-- How a character stands in a string. -/
def escapeChar (char : Char) : List Char :=
  if char = '"' then
    ['\\', '"']
  else if char = '\\' then
    ['\\', '\\']
  else if char = '\x08' then
    ['\\', 'b']
  else if char = '\x0c' then
    ['\\', 'f']
  else if char = '\n' then
    ['\\', 'n']
  else if char = '\r' then
    ['\\', 'r']
  else if char = '\t' then
    ['\\', 't']
  else if char.toNat < 0x20 then
    ['\\', 'u', '0', '0', hexDigit (char.toNat / 16), hexDigit (char.toNat % 16)]
  else
    [char]

/-- A string between its quotes. -/
def quote (text : String) : List Char :=
  '"' :: (text.toList.flatMap escapeChar ++ ['"'])

/-- A string of a JSON text; one that stands for no string is written empty. -/
def quoteText (text : JsonText) : List Char :=
  quote (text.getD "")

mutual

/-- A value on one line, without spaces. -/
def compact : Json → List Char
  | .null => "null".toList
  | .boolean true => "true".toList
  | .boolean false => "false".toList
  | .number numeral => numeral.toList
  | .string text => quoteText text
  | .array items => '[' :: (compactItems items ++ [']'])
  | .object members => '{' :: (compactMembers members ++ ['}'])

/-- Items with commas between them. -/
def compactItems : List Json → List Char
  | [] => []
  | [item] => compact item
  | item :: rest => compact item ++ ',' :: compactItems rest

/-- Members with commas between them. -/
def compactMembers : List (JsonText × Json) → List Char
  | [] => []
  | [(name, value)] => quoteText name ++ ':' :: compact value
  | (name, value) :: rest => quoteText name ++ ':' :: (compact value ++ ',' :: compactMembers rest)

end

/-- A line end and the spaces before what stands at a level. -/
def newLine (level : Nat) : List Char :=
  '\n' :: List.replicate (2 * level) ' '

mutual

/-- A value with a line for every item, at the given level. -/
def pretty (level : Nat) : Json → List Char
  | .null => "null".toList
  | .boolean true => "true".toList
  | .boolean false => "false".toList
  | .number numeral => numeral.toList
  | .string text => quoteText text
  | .array [] => ['[', ']']
  | .array items => '[' :: (prettyItems (level + 1) items ++ newLine level ++ [']'])
  | .object [] => ['{', '}']
  | .object members => '{' :: (prettyMembers (level + 1) members ++ newLine level ++ ['}'])

/-- Items on lines of their own, with commas between them. -/
def prettyItems (level : Nat) : List Json → List Char
  | [] => []
  | [item] => newLine level ++ pretty level item
  | item :: rest => newLine level ++ pretty level item ++ ',' :: prettyItems level rest

/-- Members on lines of their own, with commas between them. -/
def prettyMembers (level : Nat) : List (JsonText × Json) → List Char
  | [] => []
  | [(name, value)] => newLine level ++ quoteText name ++ ':' :: ' ' :: pretty level value
  | (name, value) :: rest =>
      newLine level ++ quoteText name ++
        ':' :: ' ' :: (pretty level value ++ ',' :: prettyMembers level rest)

end

/-- The number of a natural number. -/
def ofNat (number : Nat) : Json :=
  .number (Text.showNat number)

/-- The number of an integer. -/
def ofInt (number : Int) : Json :=
  if number < 0 then
    .number ("-" ++ Text.showNat number.natAbs)
  else
    .ofNat number.natAbs

end DecoratorLint.Json
