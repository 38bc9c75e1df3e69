import DecoratorLint.Json.Value
import DecoratorLint.Text.Decimal

/-!
# Reading JSON

A JSON text is one value with blanks around it.  Reading keeps everything that a
later decision may need: the numeral of a number, the order of members, and
whether the escapes of a string name characters.
-/

namespace DecoratorLint.Json

/-- Whether a character may stand between the parts of a JSON text. -/
def isSpace (char : Char) : Bool :=
  char = ' ' || char = '\t' || char = '\n' || char = '\r'

/-- The text without the spaces at its start. -/
def skipSpaces (text : List Char) : List Char :=
  text.dropWhile isSpace

/-! ## Strings -/

/-- A unit of a string: a character, or the code that an escape gives. -/
inductive StringUnit where
  | char (char : Char)
  | code (code : Nat)
deriving Repr, DecidableEq

/-- The value of a digit of base sixteen. -/
def hexValue? (char : Char) : Option Nat :=
  if char.isDigit then
    some (char.toNat - '0'.toNat)
  else if 'a' ≤ char ∧ char ≤ 'f' then
    some (char.toNat - 'a'.toNat + 10)
  else if 'A' ≤ char ∧ char ≤ 'F' then
    some (char.toNat - 'A'.toNat + 10)
  else
    none

/-- The number with four digits of base sixteen. -/
def hexCode? (first second third fourth : Char) : Option Nat := do
  let a ← hexValue? first
  let b ← hexValue? second
  let c ← hexValue? third
  let d ← hexValue? fourth
  some (((a * 16 + b) * 16 + c) * 16 + d)

/-- The character that a letter after a backslash stands for. -/
def escapedChar? : Char → Option Char
  | '"' => some '"'
  | '\\' => some '\\'
  | '/' => some '/'
  | 'b' => some '\x08'
  | 'f' => some '\x0c'
  | 'n' => some '\n'
  | 'r' => some '\r'
  | 't' => some '\t'
  | _ => none

/-- The units of a string after its opening quote, and the text after its closing
quote.  Control characters have to be escaped. -/
def readUnits? : List Char → Option (List StringUnit × List Char)
  | [] => none
  | '"' :: rest => some ([], rest)
  | '\\' :: 'u' :: a :: b :: c :: d :: rest =>
      match hexCode? a b c d with
      | some code => (readUnits? rest).map fun (units, left) => (.code code :: units, left)
      | none => none
  | '\\' :: letter :: rest =>
      match escapedChar? letter with
      | some char => (readUnits? rest).map fun (units, left) => (.char char :: units, left)
      | none => none
  | char :: rest =>
      if char.toNat < 0x20 || char = '\\' then
        none
      else
        (readUnits? rest).map fun (units, left) => (.char char :: units, left)

/-- Whether a code is the first half of a surrogate pair. -/
def isHighSurrogate (code : Nat) : Bool :=
  0xD800 ≤ code && code < 0xDC00

/-- Whether a code is the second half of a surrogate pair. -/
def isLowSurrogate (code : Nat) : Bool :=
  0xDC00 ≤ code && code < 0xE000

/-- The characters that units stand for; nothing if half of a surrogate pair
stands alone. -/
def decodeUnits : List StringUnit → Option (List Char)
  | [] => some []
  | .char char :: rest => (decodeUnits rest).map (char :: ·)
  | .code high :: .code low :: rest =>
      if isHighSurrogate high then
        if isLowSurrogate low then
          (decodeUnits rest).map
            (Char.ofNat (0x10000 + (high - 0xD800) * 0x400 + (low - 0xDC00)) :: ·)
        else
          none
      else if isLowSurrogate high then
        none
      else
        (decodeUnits (.code low :: rest)).map (Char.ofNat high :: ·)
  | .code code :: rest =>
      if isHighSurrogate code || isLowSurrogate code then
        none
      else
        (decodeUnits rest).map (Char.ofNat code :: ·)

/-- A string after its opening quote, and the text after its closing quote. -/
def readString? (text : List Char) : Option (JsonText × List Char) :=
  (readUnits? text).map fun (units, left) => ((decodeUnits units).map String.ofList, left)

/-! ## Numbers -/

/-- Digits, of which there is at least one, and the text after them. -/
def readDigits? (text : List Char) : Option (List Char × List Char) :=
  match text.takeWhile Char.isDigit with
  | [] => none
  | digits => some (digits, text.dropWhile Char.isDigit)

/-- The digits before the point: a zero, or digits that do not start with one. -/
def readWhole? : List Char → Option (List Char × List Char)
  | '0' :: rest => some (['0'], rest)
  | text => readDigits? text

/-- A fraction, if there is one. -/
def readFraction? : List Char → Option (List Char × List Char)
  | '.' :: rest => (readDigits? rest).map fun (digits, left) => ('.' :: digits, left)
  | text => some ([], text)

/-- The sign of an exponent, if there is one. -/
def readSign : List Char → List Char × List Char
  | '+' :: rest => (['+'], rest)
  | '-' :: rest => (['-'], rest)
  | text => ([], text)

/-- An exponent, if there is one. -/
def readExponent? : List Char → Option (List Char × List Char)
  | [] => some ([], [])
  | mark :: rest =>
      if mark = 'e' || mark = 'E' then
        let (sign, after) := readSign rest
        (readDigits? after).map fun (digits, left) => (mark :: sign ++ digits, left)
      else
        some ([], mark :: rest)

/-- A number without its sign. -/
def readUnsigned? (text : List Char) : Option (List Char × List Char) := do
  let (whole, afterWhole) ← readWhole? text
  let (fraction, afterFraction) ← readFraction? afterWhole
  let (exponent, left) ← readExponent? afterFraction
  some (whole ++ fraction ++ exponent, left)

/-- A number. -/
def readNumber? : List Char → Option (Json × List Char)
  | '-' :: rest =>
      (readUnsigned? rest).map fun (numeral, left) =>
        (.number (String.ofList ('-' :: numeral)), left)
  | text =>
      (readUnsigned? text).map fun (numeral, left) => (.number (String.ofList numeral), left)

/-! ## Values -/

/-- The text after a word, if it starts with that word. -/
def afterWord? (word text : List Char) : Option (List Char) :=
  if word.isPrefixOf text then some (text.drop word.length) else none

mutual

/-- A value at the start of a text, after spaces, and the text after it.  The
counter bounds the number of calls. -/
def readValue? : Nat → List Char → Option (Json × List Char)
  | 0, _ => none
  | fuel + 1, text =>
      match skipSpaces text with
      | [] => none
      | '"' :: rest => (readString? rest).map fun (found, left) => (.string found, left)
      | '[' :: rest =>
          match skipSpaces rest with
          | ']' :: left => some (.array [], left)
          | _ => (readItems? fuel rest).map fun (items, left) => (.array items, left)
      | '{' :: rest =>
          match skipSpaces rest with
          | '}' :: left => some (.object [], left)
          | _ => (readMembers? fuel rest).map fun (members, left) => (.object members, left)
      | 'n' :: rest => (afterWord? "ull".toList rest).map (.null, ·)
      | 't' :: rest => (afterWord? "rue".toList rest).map (.boolean true, ·)
      | 'f' :: rest => (afterWord? "alse".toList rest).map (.boolean false, ·)
      | start => readNumber? start

/-- The items of an array, of which there is at least one, and its closing
bracket. -/
def readItems? : Nat → List Char → Option (List Json × List Char)
  | 0, _ => none
  | fuel + 1, text =>
      match readValue? fuel text with
      | none => none
      | some (item, afterItem) =>
          match skipSpaces afterItem with
          | ',' :: rest => (readItems? fuel rest).map fun (items, left) => (item :: items, left)
          | ']' :: left => some ([item], left)
          | _ => none

/-- The members of an object, of which there is at least one, and its closing
brace. -/
def readMembers? : Nat → List Char → Option (List (JsonText × Json) × List Char)
  | 0, _ => none
  | fuel + 1, text =>
      match skipSpaces text with
      | '"' :: afterQuote =>
          match readString? afterQuote with
          | none => none
          | some (name, afterName) =>
              match skipSpaces afterName with
              | ':' :: afterColon =>
                  match readValue? fuel afterColon with
                  | none => none
                  | some (value, afterValue) =>
                      match skipSpaces afterValue with
                      | ',' :: rest =>
                          (readMembers? fuel rest).map fun (members, left) =>
                            ((name, value) :: members, left)
                      | '}' :: left => some ([(name, value)], left)
                      | _ => none
              | _ => none
      | _ => none

end

/-- The value of a JSON text. -/
def parse? (text : List Char) : Option Json :=
  match readValue? (2 * text.length + 2) text with
  | none => none
  | some (value, left) => if (skipSpaces left).isEmpty then some value else none

/-! ## Numbers of 64 bits -/

/-- The natural number of a numeral that is nothing but digits. -/
def wholeValue? (digits : List Char) : Option Nat :=
  if digits.isEmpty || digits.any (!·.isDigit) then none else some (Text.decimalValue digits)

/-- A natural number below 2^64, written without point and exponent. -/
def nat64? : Json → Option Nat
  | .number numeral =>
      (wholeValue? numeral.toList).bind fun value =>
        if value < 18446744073709551616 then some value else none
  | _ => none

/-- An integer of 64 bits, written without point and exponent.  A zero with a
minus sign is not one. -/
def int64? : Json → Option Int
  | .number numeral =>
      match numeral.toList with
      | '-' :: digits =>
          (wholeValue? digits).bind fun value =>
            if value ≠ 0 ∧ value ≤ 9223372036854775808 then some (-(value : Int)) else none
      | digits =>
          (wholeValue? digits).bind fun value =>
            if value < 9223372036854775808 then some (value : Int) else none
  | _ => none

/-- The string of a value that is one. -/
def string? : Json → Option String
  | .string text => text
  | _ => none

/-- The items of a value that is an array. -/
def array? : Json → Option (List Json)
  | .array items => some items
  | _ => none

end DecoratorLint.Json
