import DecoratorLint.Text.Hidden

/-!
# Strings in messages

How a string is shown inside a message that a person reads: between double
quotes, with everything escaped that would end the string or would not show.
-/

namespace DecoratorLint.Text

/-- A number in base sixteen, in lower case. -/
def hexadecimal (number : Nat) : List Char :=
  Nat.toDigits 16 number

/-- How a character is shown between quotes. -/
def shownChar (char : Char) : List Char :=
  if char = '"' then
    ['\\', '"']
  else if char = '\\' then
    ['\\', '\\']
  else if char = '\n' then
    ['\\', 'n']
  else if char = '\r' then
    ['\\', 'r']
  else if char = '\t' then
    ['\\', 't']
  else if char.toNat = 0 then
    ['\\', '0']
  else if isHidden char then
    ['\\', 'u', '{'] ++ hexadecimal char.toNat ++ ['}']
  else
    [char]

/-- A string between quotes. -/
def quoted (text : String) : String :=
  String.ofList ('"' :: (text.toList.flatMap shownChar ++ ['"']))

/-- A list of strings between brackets. -/
def quotedList (texts : List String) : String :=
  "[" ++ ", ".intercalate (texts.map quoted) ++ "]"

end DecoratorLint.Text
