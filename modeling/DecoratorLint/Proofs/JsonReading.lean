import DecoratorLint.Json.Reader
import DecoratorLint.Json.Writer
import Mathlib.Data.List.Basic
import Mathlib.Data.String.Basic

/-!
# Reading JSON that was written

A value whose numbers are whole and whose strings stand for strings is read back
from its compact text, whatever follows, as long as what follows does not go on
with the text.  That text has no control characters, so it stands on one line.
-/

namespace DecoratorLint

/-! ## Decimal numerals -/

namespace Text

theorem isDigit_digitChar : ∀ digit < 10, (digitChar digit).isDigit = true := by
  decide

theorem toNat_digitChar : ∀ digit < 10, (digitChar digit).toNat - '0'.toNat = digit := by
  decide

/-- The value of a numeral that is written digit by digit. -/
theorem decimalValue_concat (digits : List Char) (digit : Char) :
    decimalValue (digits ++ [digit]) = 10 * decimalValue digits + (digit.toNat - '0'.toNat) := by
  simp [decimalValue]

@[simp]
theorem decimalValue_decimal (number : Nat) : decimalValue (decimal number) = number := by
  induction number using decimal.induct with
  | case1 number small =>
      rw [decimal_of_lt small, ← List.nil_append [_], decimalValue_concat,
        toNat_digitChar number small]
      simp [decimalValue]
  | case2 number large ih =>
      rw [decimal_of_ge (Nat.le_of_not_lt large), decimalValue_concat, ih,
        toNat_digitChar _ (Nat.mod_lt number (by decide))]
      exact Nat.div_add_mod number 10

theorem isDigit_of_mem_decimal {number : Nat} {char : Char} (member : char ∈ decimal number) :
    char.isDigit = true := by
  induction number using decimal.induct with
  | case1 number small =>
      rw [decimal_of_lt small, List.mem_singleton] at member
      rw [member, isDigit_digitChar number small]
  | case2 number large ih =>
      rw [decimal_of_ge (Nat.le_of_not_lt large), List.mem_append, List.mem_singleton] at member
      rcases member with member | rfl
      · exact ih member
      · exact isDigit_digitChar _ (Nat.mod_lt number (by decide))

/-- No numeral but that of zero starts with a zero. -/
theorem head?_decimal_ne_zero {number : Nat} (positive : 0 < number) :
    (decimal number).head? ≠ some '0' := by
  induction number using decimal.induct with
  | case1 number small =>
      have digits : ∀ digit < 10, 0 < digit → digitChar digit ≠ '0' := by
        decide
      rw [decimal_of_lt small, List.head?_singleton]
      simpa using digits number small positive
  | case2 number large ih =>
      rw [decimal_of_ge (Nat.le_of_not_lt large), List.head?_append_of_ne_nil _ (decimal_ne_nil _)]
      exact ih (by omega)

end Text

namespace Json

/-! ## Strings -/

theorem hexValue?_hexDigit : ∀ value < 16, hexValue? (hexDigit value) = some value := by
  decide

theorem hexCode?_control {char : Char} (control : char.toNat < 0x20) :
    hexCode? '0' '0' (hexDigit (char.toNat / 16)) (hexDigit (char.toNat % 16)) =
      some char.toNat := by
  have high := hexValue?_hexDigit (char.toNat / 16) (by omega)
  have low := hexValue?_hexDigit (char.toNat % 16) (by omega)
  have zero : hexValue? '0' = some 0 := by
    decide
  simp only [hexCode?, zero, high, low, Option.bind_eq_bind, Option.bind_some]
  congr 1
  omega

/-- The unit as which a character is read that was written: control characters
without a letter of their own come back as codes. -/
def unitOf (char : Char) : StringUnit :=
  if char.toNat < 0x20 ∧ char ∉ ['\x08', '\x0c', '\n', '\r', '\t'] then
    .code char.toNat
  else
    .char char

/-- The three ways in which a character is written: with a letter after a backslash,
with its code, or as it is. -/
theorem escapeChar_cases (char : Char) :
    (∃ letter, letter ≠ 'u' ∧ 0x20 ≤ letter.toNat ∧ escapeChar char = ['\\', letter] ∧
        escapedChar? letter = some char ∧ unitOf char = .char char) ∨
      (char.toNat < 0x20 ∧ unitOf char = .code char.toNat ∧
        escapeChar char =
          ['\\', 'u', '0', '0', hexDigit (char.toNat / 16), hexDigit (char.toNat % 16)]) ∨
        (0x20 ≤ char.toNat ∧ char ≠ '"' ∧ char ≠ '\\' ∧ escapeChar char = [char] ∧
          unitOf char = .char char) := by
  by_cases named : char ∈ ['"', '\\', '\x08', '\x0c', '\n', '\r', '\t']
  · left
    simp only [List.mem_cons, List.not_mem_nil, or_false] at named
    rcases named with rfl | rfl | rfl | rfl | rfl | rfl | rfl
    all_goals exact ⟨_, by decide, by decide, rfl, rfl, rfl⟩
  · right
    simp only [List.mem_cons, List.not_mem_nil, or_false, not_or] at named
    by_cases control : char.toNat < 0x20
    · left
      simp [escapeChar, unitOf, named, control]
    · right
      simp [escapeChar, unitOf, named, control]
      omega

theorem readUnits?_letter {letter char : Char} (unlike : letter ≠ 'u')
    (known : escapedChar? letter = some char) (rest : List Char) :
    readUnits? ('\\' :: letter :: rest) =
      (readUnits? rest).map fun (units, left) => (.char char :: units, left) := by
  rw [readUnits?, known]
  intro a b c d more same
  exact absurd same unlike

theorem readUnits?_escapeChar (char : Char) (rest : List Char) :
    readUnits? (escapeChar char ++ rest) =
      (readUnits? rest).map fun (units, left) => (unitOf char :: units, left) := by
  rcases escapeChar_cases char with ⟨letter, unlike, _, written, known, unit⟩ |
    ⟨control, unit, written⟩ | ⟨plain, notQuote, notBackslash, written, unit⟩
  · rw [written, unit]
    exact readUnits?_letter unlike known rest
  · rw [written, unit]
    simp only [List.cons_append, List.nil_append, readUnits?, hexCode?_control control]
  · rw [written, unit, List.cons_append, List.nil_append, readUnits?.eq_def]
    split <;> simp_all

theorem readUnits?_escaped (text rest : List Char) :
    readUnits? (text.flatMap escapeChar ++ '"' :: rest) = some (text.map unitOf, rest) := by
  induction text with
  | nil => rfl
  | cons char text ih =>
      rw [List.flatMap_cons, List.append_assoc, readUnits?_escapeChar, ih]
      rfl

/-- A code that is no half of a surrogate pair stands for itself, even if another
code follows. -/
theorem decodeUnits_code {code : Nat} (small : code < 0xD800) (units : List StringUnit) :
    decodeUnits (.code code :: units) = (decodeUnits units).map (Char.ofNat code :: ·) := by
  have notHigh : isHighSurrogate code = false := by
    simp [isHighSurrogate, small]
  have notLow : isLowSurrogate code = false := by
    simp [isLowSurrogate]
    omega
  cases units with
  | nil => simp [decodeUnits, notHigh, notLow]
  | cons next units => cases next <;> simp [decodeUnits, notHigh, notLow]

theorem decodeUnits_cons_unitOf (char : Char) (units : List StringUnit) :
    decodeUnits (unitOf char :: units) = (decodeUnits units).map (char :: ·) := by
  rcases escapeChar_cases char with ⟨_, _, _, _, _, unit⟩ | ⟨control, unit, _⟩ |
    ⟨_, _, _, _, unit⟩
  · rw [unit, decodeUnits]
  · rw [unit, decodeUnits_code (by omega), Char.ofNat_toNat]
  · rw [unit, decodeUnits]

theorem decodeUnits_map_unitOf (text : List Char) :
    decodeUnits (text.map unitOf) = some text := by
  induction text with
  | nil => rfl
  | cons char text ih => rw [List.map_cons, decodeUnits_cons_unitOf, ih, Option.map_some]

/-- A string is read back from between its quotes. -/
theorem readString?_quote (text : String) (rest : List Char) :
    readString? (text.toList.flatMap escapeChar ++ '"' :: rest) = some (some text, rest) := by
  simp [readString?, readUnits?_escaped, decodeUnits_map_unitOf]

/-! ## Numbers -/

/-- What can follow a value inside a compact text, or after it. -/
def Closes (rest : List Char) : Prop :=
  ∀ char ∈ rest.head?, char = ',' ∨ char = ']' ∨ char = '}'

theorem closes_nil : Closes [] := by
  simp [Closes]

theorem closes_cons {char : Char} (closer : char = ',' ∨ char = ']' ∨ char = '}')
    (rest : List Char) : Closes (char :: rest) := by
  simpa [Closes] using closer

theorem takeWhile_append_of_closes {digits rest : List Char}
    (numeral : ∀ char ∈ digits, char.isDigit = true) (closes : Closes rest) :
    (digits ++ rest).takeWhile Char.isDigit = digits ∧
      (digits ++ rest).dropWhile Char.isDigit = rest := by
  have none : rest.takeWhile Char.isDigit = [] ∧ rest.dropWhile Char.isDigit = rest := by
    cases rest with
    | nil => exact ⟨rfl, rfl⟩
    | cons char rest =>
        have notDigit : char.isDigit = false := by
          rcases closes char rfl with rfl | rfl | rfl <;> decide
        simp [notDigit]
  constructor
  · rw [List.takeWhile_append_of_pos numeral, none.1, List.append_nil]
  · rw [List.dropWhile_append_of_pos numeral, none.2]

theorem readFraction?_of_closes {rest : List Char} (closes : Closes rest) :
    readFraction? rest = some ([], rest) := by
  cases rest with
  | nil => rfl
  | cons char rest => rcases closes char rfl with rfl | rfl | rfl <;> rfl

theorem readExponent?_of_closes {rest : List Char} (closes : Closes rest) :
    readExponent? rest = some ([], rest) := by
  cases rest with
  | nil => rfl
  | cons char rest => rcases closes char rfl with rfl | rfl | rfl <;> rfl

theorem readWhole?_decimal (number : Nat) {rest : List Char} (closes : Closes rest) :
    readWhole? (Text.decimal number ++ rest) = some (Text.decimal number, rest) := by
  have numeral : ∀ char ∈ Text.decimal number, char.isDigit = true :=
    fun char => Text.isDigit_of_mem_decimal
  rcases Nat.eq_zero_or_pos number with rfl | positive
  · rw [Text.decimal_of_lt (by decide)]
    rfl
  · obtain ⟨first, digits, shape⟩ := List.exists_cons_of_ne_nil (Text.decimal_ne_nil number)
    have notZero : first ≠ '0' := by
      have head := Text.head?_decimal_ne_zero positive
      simpa [shape] using head
    obtain ⟨taken, dropped⟩ := takeWhile_append_of_closes numeral closes
    have digitsRead : readDigits? (Text.decimal number ++ rest) =
        some (Text.decimal number, rest) := by
      rw [readDigits?, taken, dropped, shape]
    rw [← digitsRead, shape, List.cons_append, readWhole?.eq_def]
    split <;> simp_all

theorem readUnsigned?_decimal (number : Nat) {rest : List Char} (closes : Closes rest) :
    readUnsigned? (Text.decimal number ++ rest) = some (Text.decimal number, rest) := by
  simp [readUnsigned?, readWhole?_decimal number closes, readFraction?_of_closes closes,
    readExponent?_of_closes closes]

/-! ## Values -/

/-- A value whose numbers are whole and whose strings, names included, stand for
strings. -/
inductive Plain : Json → Prop where
  | null : Plain .null
  | boolean (value : Bool) : Plain (.boolean value)
  | whole (number : Nat) : Plain (.ofNat number)
  | negative (number : Nat) : Plain (.number ("-" ++ Text.showNat number))
  | string (text : String) : Plain (.ofString text)
  | array {items : List Json} (plain : ∀ item ∈ items, Plain item) : Plain (.array items)
  | object {members : List (String × Json)} (plain : ∀ member ∈ members, Plain member.2) :
      Plain (.ofMembers members)

theorem plain_ofInt (number : Int) : Plain (.ofInt number) := by
  rw [ofInt]
  split
  · exact .negative number.natAbs
  · exact .whole number.natAbs

theorem skipSpaces_cons {char : Char} (solid : isSpace char = false) (rest : List Char) :
    skipSpaces (char :: rest) = char :: rest := by
  simp [skipSpaces, solid]

theorem skipSpaces_of_closes {rest : List Char} (closes : Closes rest) :
    skipSpaces rest = rest := by
  cases rest with
  | nil => rfl
  | cons char rest =>
      apply skipSpaces_cons
      rcases closes char rfl with rfl | rfl | rfl <;> decide

theorem ne_of_isDigit {char other : Char} (digit : char.isDigit = true)
    (notDigit : other.isDigit = false) : char ≠ other := by
  rintro rfl
  rw [digit] at notDigit
  contradiction

/-- A numeral starts with a digit. -/
theorem exists_decimal_eq_cons (number : Nat) :
    ∃ first digits, Text.decimal number = first :: digits ∧ first.isDigit = true := by
  obtain ⟨first, digits, shape⟩ := List.exists_cons_of_ne_nil (Text.decimal_ne_nil number)
  have member : first ∈ Text.decimal number := by
    rw [shape]
    exact List.mem_cons_self
  exact ⟨first, digits, shape, Text.isDigit_of_mem_decimal member⟩

theorem not_isSpace_of_isDigit {char : Char} (digit : char.isDigit = true) :
    isSpace char = false := by
  have apart : ∀ other : Char, other.isDigit = false → char ≠ other :=
    fun _ => ne_of_isDigit digit
  simp [isSpace, apart ' ' (by decide), apart '\t' (by decide), apart '\n' (by decide),
    apart '\r' (by decide)]

theorem readNumber?_whole (number : Nat) {rest : List Char} (closes : Closes rest) :
    readNumber? (Text.decimal number ++ rest) = some (.ofNat number, rest) := by
  obtain ⟨first, digits, shape, digit⟩ := exists_decimal_eq_cons number
  have unsigned := readUnsigned?_decimal number closes
  rw [shape, List.cons_append] at unsigned ⊢
  rw [readNumber?, unsigned, ofNat, Text.showNat, shape]
  · rfl
  · intro after same
    exact ne_of_isDigit digit (by decide) (List.cons.inj same).1

theorem readNumber?_negative (number : Nat) {rest : List Char} (closes : Closes rest) :
    readNumber? ('-' :: (Text.decimal number ++ rest)) =
      some (.number ("-" ++ Text.showNat number), rest) := by
  rw [readNumber?, readUnsigned?_decimal number closes]
  simp [Text.showNat]

/-- The first character of a value is no space, and it closes nothing. -/
theorem exists_compact_eq_cons {value : Json} (plain : Plain value) :
    ∃ first rest, compact value = first :: rest ∧ isSpace first = false ∧ first ≠ ']' := by
  cases plain with
  | null => exact ⟨'n', _, rfl, by decide, by decide⟩
  | boolean value =>
      cases value
      · exact ⟨'f', _, rfl, by decide, by decide⟩
      · exact ⟨'t', _, rfl, by decide, by decide⟩
  | whole number =>
      obtain ⟨first, digits, shape, digit⟩ := exists_decimal_eq_cons number
      refine ⟨first, digits, ?_, not_isSpace_of_isDigit digit, ne_of_isDigit digit (by decide)⟩
      simp [ofNat, compact, Text.showNat, shape]
  | negative number =>
      refine ⟨'-', Text.decimal number, ?_, by decide, by decide⟩
      simp [compact, Text.showNat]
  | string text => exact ⟨'"', _, rfl, by decide, by decide⟩
  | array => exact ⟨'[', _, rfl, by decide, by decide⟩
  | object => exact ⟨'\x7b', _, rfl, by decide, by decide⟩

/-- A value is read back from its compact text, with a counter of twice its length. -/
def ReadsBack (value : Json) : Prop :=
  ∀ fuel rest, Closes rest → 2 * (compact value).length ≤ fuel →
    readValue? fuel (compact value ++ rest) = some (value, rest)

theorem readItems?_compactItems {items : List Json} (nonempty : items ≠ [])
    (readBack : ∀ item ∈ items, ReadsBack item) (fuel : Nat) (rest : List Char)
    (enough : 2 * (compactItems items).length < fuel) :
    readItems? fuel (compactItems items ++ ']' :: rest) = some (items, rest) := by
  induction items generalizing fuel with
  | nil => contradiction
  | cons item items ih =>
      obtain ⟨fuel, rfl⟩ := Nat.exists_eq_add_one_of_ne_zero (Nat.ne_of_gt (by omega : 0 < fuel))
      cases items with
      | nil =>
          simp only [compactItems] at enough ⊢
          have closes : Closes (']' :: rest) := closes_cons (by simp) rest
          have itemRead := readBack item (by simp) fuel _ closes (by omega)
          simp [readItems?, itemRead, skipSpaces_of_closes closes]
      | cons next items =>
          simp only [compactItems, List.length_append, List.length_cons] at enough
          rw [compactItems, List.append_assoc, List.cons_append]
          · have closes : Closes (',' :: (compactItems (next :: items) ++ ']' :: rest)) :=
              closes_cons (by simp) _
            have itemRead := readBack item (by simp) fuel _ closes (by omega)
            have moreRead := ih (by simp) (fun other member => readBack other (by simp [member]))
              fuel (by omega)
            simp [readItems?, itemRead, skipSpaces_of_closes closes, moreRead]
          · simp

/-- Members whose names stand for strings. -/
def named (members : List (String × Json)) : List (JsonText × Json) :=
  members.map fun (name, value) => (some name, value)

@[simp]
theorem named_nil : named [] = [] :=
  rfl

@[simp]
theorem named_cons (name : String) (value : Json) (members : List (String × Json)) :
    named ((name, value) :: members) = (some name, value) :: named members :=
  rfl

theorem ofMembers_eq (members : List (String × Json)) :
    ofMembers members = .object (named members) :=
  rfl

theorem compactMembers_cons_cons (name : String) (value : Json) (next : String × Json)
    (members : List (String × Json)) :
    compactMembers (named ((name, value) :: next :: members)) =
      quote name ++ ':' :: (compact value ++ ',' :: compactMembers (named (next :: members))) :=
  rfl

theorem skipSpaces_quote (rest : List Char) : skipSpaces ('"' :: rest) = '"' :: rest :=
  skipSpaces_cons (by decide) rest

theorem skipSpaces_colon (rest : List Char) : skipSpaces (':' :: rest) = ':' :: rest :=
  skipSpaces_cons (by decide) rest

section Member

variable {value : Json} (readBack : ReadsBack value) {fuel : Nat}
  (enough : 2 * (compact value).length ≤ fuel) (name : String)

include readBack enough

theorem readMembers?_last (rest : List Char) :
    readMembers? (fuel + 1) (quote name ++ ':' :: (compact value ++ '\x7d' :: rest)) =
      some ([(some name, value)], rest) := by
  have closes : Closes ('\x7d' :: rest) := closes_cons (by simp) rest
  have nameRead := readString?_quote name (':' :: (compact value ++ '\x7d' :: rest))
  have valueRead := readBack fuel _ closes enough
  simp [readMembers?, quote, skipSpaces_quote, nameRead, skipSpaces_colon, valueRead,
    skipSpaces_of_closes closes]

theorem readMembers?_comma (rest : List Char) :
    readMembers? (fuel + 1) (quote name ++ ':' :: (compact value ++ ',' :: rest)) =
      (readMembers? fuel rest).map fun (members, left) =>
        ((some name, value) :: members, left) := by
  have closes : Closes (',' :: rest) := closes_cons (by simp) rest
  have nameRead := readString?_quote name (':' :: (compact value ++ ',' :: rest))
  have valueRead := readBack fuel _ closes enough
  simp [readMembers?, quote, skipSpaces_quote, nameRead, skipSpaces_colon, valueRead,
    skipSpaces_of_closes closes]

end Member

theorem readMembers?_compactMembers {members : List (String × Json)} (nonempty : members ≠ [])
    (readBack : ∀ member ∈ members, ReadsBack member.2) (fuel : Nat) (rest : List Char)
    (enough : 2 * (compactMembers (named members)).length < fuel) :
    readMembers? fuel (compactMembers (named members) ++ '\x7d' :: rest) =
      some (named members, rest) := by
  induction members generalizing fuel with
  | nil => contradiction
  | cons member members ih =>
      obtain ⟨name, value⟩ := member
      have valueReadBack : ReadsBack value := readBack (name, value) (by simp)
      obtain ⟨fuel, rfl⟩ := Nat.exists_eq_add_one_of_ne_zero (Nat.ne_of_gt (by omega : 0 < fuel))
      cases members with
      | nil =>
          simp only [named_cons, named_nil, compactMembers, quoteText, List.length_append,
            List.length_cons, Option.getD_some] at enough ⊢
          rw [List.append_assoc, List.cons_append, readMembers?_last valueReadBack (by omega)]
      | cons next members =>
          rw [compactMembers_cons_cons] at enough ⊢
          simp only [List.length_append, List.length_cons] at enough
          have moreRead := ih (by simp) (fun other member => readBack other (by simp [member]))
            fuel (by omega)
          rw [List.append_assoc, List.cons_append, List.append_assoc, List.cons_append,
            readMembers?_comma valueReadBack (by omega), moreRead]
          rfl

/-- Any start of a text that none of the other kinds of values has is that of a
number. -/
theorem readValue?_of_start {first : Char} {rest : List Char} (solid : isSpace first = false)
    (numeric : first.isDigit = true ∨ first = '-') (fuel : Nat) :
    readValue? (fuel + 1) (first :: rest) = readNumber? (first :: rest) := by
  have apart : ∀ other : Char, other.isDigit = false → other ≠ '-' → first ≠ other := by
    rintro other notDigit notMinus rfl
    rcases numeric with digit | minus
    · exact ne_of_isDigit digit notDigit rfl
    · exact notMinus minus
  rw [readValue?, skipSpaces_cons solid]
  split
  case h_8 => rfl
  case h_1 same => cases same
  all_goals
    rename_i same
    exact absurd (List.cons.inj same).1 (apart _ (by decide) (by decide))

/-- The counter never runs out at a value, which has at least one character. -/
theorem readsBack_of_succ {value : Json} (plain : Plain value)
    (step : ∀ fuel rest, Closes rest → 2 * (compact value).length ≤ fuel + 1 →
      readValue? (fuel + 1) (compact value ++ rest) = some (value, rest)) :
    ReadsBack value := by
  obtain ⟨first, more, shape, _⟩ := exists_compact_eq_cons plain
  intro fuel rest closes enough
  cases fuel with
  | zero => simp [shape] at enough
  | succ fuel => exact step fuel rest closes enough

theorem readsBack_array {items : List Json} (plain : ∀ item ∈ items, Plain item)
    (readBack : ∀ item ∈ items, ReadsBack item) : ReadsBack (.array items) := by
  apply readsBack_of_succ (.array plain)
  intro fuel rest _ enough
  have text : compact (.array items) ++ rest = '[' :: (compactItems items ++ ']' :: rest) := by
    simp [compact]
  rw [text, readValue?, skipSpaces_cons (by decide)]
  cases items with
  | nil => rfl
  | cons item items =>
      have itemsRead := readItems?_compactItems (List.cons_ne_nil item items) readBack fuel rest
        (by simp [compact] at enough; omega)
      obtain ⟨first, more, shape, solid, unlike⟩ := exists_compact_eq_cons (plain item (by simp))
      have start : ∃ after, compactItems (item :: items) ++ ']' :: rest = first :: after := by
        cases items <;> simp [compactItems, shape]
      obtain ⟨after, start⟩ := start
      simp only [start, skipSpaces_cons solid] at itemsRead ⊢
      split
      · rename_i same
        exact absurd (List.cons.inj same).1 unlike
      · rw [itemsRead]
        rfl

theorem readsBack_ofMembers {members : List (String × Json)}
    (plain : ∀ member ∈ members, Plain member.2)
    (readBack : ∀ member ∈ members, ReadsBack member.2) : ReadsBack (.ofMembers members) := by
  apply readsBack_of_succ (.object plain)
  intro fuel rest _ enough
  have text : compact (.ofMembers members) ++ rest =
      '\x7b' :: (compactMembers (named members) ++ '\x7d' :: rest) := by
    simp [ofMembers_eq, compact]
  rw [text, readValue?, skipSpaces_cons (by decide)]
  cases members with
  | nil => rfl
  | cons member members =>
      have membersRead := readMembers?_compactMembers (List.cons_ne_nil member members) readBack
        fuel rest (by simp [ofMembers_eq, compact] at enough; omega)
      have start : ∃ after, compactMembers (named (member :: members)) ++ '\x7d' :: rest =
          '"' :: after := by
        cases members <;> exact ⟨_, rfl⟩
      obtain ⟨after, start⟩ := start
      simp only [start, skipSpaces_quote] at membersRead ⊢
      rw [membersRead]
      rfl

/-- Every plain value is read back from its compact text. -/
theorem Plain.readsBack {value : Json} (plain : Plain value) : ReadsBack value := by
  induction plain with
  | null => exact readsBack_of_succ .null fun fuel rest _ _ => rfl
  | boolean value =>
      apply readsBack_of_succ (.boolean value)
      intro fuel rest _ _
      cases value <;> rfl
  | whole number =>
      apply readsBack_of_succ (.whole number)
      intro fuel rest closes _
      have text : compact (.ofNat number) = Text.decimal number := by
        simp [ofNat, compact, Text.showNat]
      have numberRead := readNumber?_whole number closes
      obtain ⟨first, digits, shape, digit⟩ := exists_decimal_eq_cons number
      rw [shape, List.cons_append] at numberRead
      rw [text, shape, List.cons_append,
        readValue?_of_start (not_isSpace_of_isDigit digit) (.inl digit), numberRead]
  | negative number =>
      apply readsBack_of_succ (.negative number)
      intro fuel rest closes _
      have text : compact (.number ("-" ++ Text.showNat number)) = '-' :: Text.decimal number := by
        simp [compact, Text.showNat]
      rw [text, List.cons_append, readValue?_of_start (by decide) (.inr rfl),
        readNumber?_negative number closes]
  | string text =>
      apply readsBack_of_succ (.string text)
      intro fuel rest _ _
      have written : compact (.ofString text) ++ rest =
          '"' :: (text.toList.flatMap escapeChar ++ '"' :: rest) := by
        simp [ofString, compact, quoteText, quote]
      rw [written, readValue?, skipSpaces_quote]
      simp only [readString?_quote]
      rfl
  | array plain ih => exact readsBack_array plain ih
  | object plain ih => exact readsBack_ofMembers plain ih

/-- The compact text of a plain value is a JSON text of that value. -/
theorem parse?_compact {value : Json} (plain : Plain value) :
    parse? (compact value) = some value := by
  have read := plain.readsBack (2 * (compact value).length + 2) [] closes_nil (by omega)
  rw [List.append_nil] at read
  rw [parse?, read]
  rfl

/-! ## One line -/

theorem printable_escapeChar {char other : Char} (member : other ∈ escapeChar char) :
    0x20 ≤ other.toNat := by
  rcases escapeChar_cases char with ⟨letter, _, printable, written, _⟩ | ⟨control, _, written⟩ |
    ⟨printable, _, _, written, _⟩
  · rw [written] at member
    simp only [List.mem_cons, List.not_mem_nil, or_false] at member
    rcases member with rfl | rfl
    · decide
    · exact printable
  · have digits : ∀ value < 16, 0x20 ≤ (hexDigit value).toNat := by
      decide
    rw [written] at member
    simp only [List.mem_cons, List.not_mem_nil, or_false] at member
    rcases member with rfl | rfl | rfl | rfl | rfl | rfl
    iterate 4 decide
    · exact digits _ (by omega)
    · exact digits _ (by omega)
  · rw [written, List.mem_singleton] at member
    rw [member]
    exact printable

theorem printable_of_mem_decimal {number : Nat} {char : Char}
    (member : char ∈ Text.decimal number) : 0x20 ≤ char.toNat := by
  have digit := Text.isDigit_of_mem_decimal member
  simp only [Char.isDigit, ge_iff_le, Bool.and_eq_true, decide_eq_true_eq] at digit
  have least : 48 ≤ char.toNat := UInt32.le_iff_toNat_le.mp digit.1
  omega

theorem printable_quote {text : String} {char : Char} (member : char ∈ quote text) :
    0x20 ≤ char.toNat := by
  simp only [quote, List.mem_cons, List.mem_append, List.mem_flatMap, List.not_mem_nil,
    or_false] at member
  rcases member with rfl | ⟨written, _, member⟩ | rfl
  · decide
  · exact printable_escapeChar member
  · decide

theorem of_mem_compactItems {items : List Json} {char : Char}
    (member : char ∈ compactItems items) :
    char = ',' ∨ ∃ item ∈ items, char ∈ compact item := by
  induction items with
  | nil => simp [compactItems] at member
  | cons item items ih =>
      cases items with
      | nil => exact .inr ⟨item, by simp, member⟩
      | cons next items =>
          rw [compactItems, List.mem_append, List.mem_cons] at member
          · rcases member with member | rfl | member
            · exact .inr ⟨item, by simp, member⟩
            · exact .inl rfl
            · rcases ih member with rfl | ⟨other, listed, member⟩
              · exact .inl rfl
              · exact .inr ⟨other, List.mem_cons_of_mem item listed, member⟩
          · simp

theorem of_mem_compactMembers {members : List (String × Json)} {char : Char}
    (member : char ∈ compactMembers (named members)) :
    char = ',' ∨ char = ':' ∨
      ∃ pair ∈ members, char ∈ quote pair.1 ∨ char ∈ compact pair.2 := by
  induction members with
  | nil => simp [compactMembers] at member
  | cons pair members ih =>
      obtain ⟨name, value⟩ := pair
      cases members with
      | nil =>
          simp only [named_cons, named_nil, compactMembers, quoteText, Option.getD_some,
            List.mem_append, List.mem_cons] at member
          rcases member with member | rfl | member
          · exact .inr (.inr ⟨(name, value), by simp, .inl member⟩)
          · exact .inr (.inl rfl)
          · exact .inr (.inr ⟨(name, value), by simp, .inr member⟩)
      | cons next members =>
          rw [compactMembers_cons_cons, List.mem_append, List.mem_cons, List.mem_append,
            List.mem_cons] at member
          rcases member with member | rfl | member | rfl | member
          · exact .inr (.inr ⟨(name, value), by simp, .inl member⟩)
          · exact .inr (.inl rfl)
          · exact .inr (.inr ⟨(name, value), by simp, .inr member⟩)
          · exact .inl rfl
          · rcases ih member with rfl | rfl | ⟨other, listed, member⟩
            · exact .inl rfl
            · exact .inr (.inl rfl)
            · exact .inr (.inr ⟨other, List.mem_cons_of_mem _ listed, member⟩)

theorem printable_of_all {text : List Char}
    (all : (text.all fun char => decide (0x20 ≤ char.toNat)) = true) :
    ∀ char ∈ text, 0x20 ≤ char.toNat := by
  simpa using all

/-- No control character stands in the compact text of a plain value. -/
theorem Plain.printable {value : Json} (plain : Plain value) :
    ∀ char ∈ compact value, 0x20 ≤ char.toNat := by
  induction plain with
  | null => exact printable_of_all (by decide)
  | boolean value => cases value <;> exact printable_of_all (by decide)
  | whole number =>
      intro char member
      rw [ofNat, compact, Text.showNat, String.toList_ofList] at member
      exact printable_of_mem_decimal member
  | negative number =>
      intro char member
      rw [compact, String.toList_append, List.mem_append] at member
      rcases member with member | member
      · rw [List.mem_singleton.mp member]
        decide
      · rw [Text.showNat, String.toList_ofList] at member
        exact printable_of_mem_decimal member
  | string text =>
      intro char member
      exact printable_quote member
  | array plain ih =>
      intro char member
      rw [compact, List.mem_cons, List.mem_append, List.mem_singleton] at member
      rcases member with rfl | member | rfl
      · decide
      · rcases of_mem_compactItems member with rfl | ⟨item, listed, member⟩
        · decide
        · exact ih item listed char member
      · decide
  | object plain ih =>
      intro char member
      rw [ofMembers_eq, compact, List.mem_cons, List.mem_append, List.mem_singleton] at member
      rcases member with rfl | member | rfl
      · decide
      · rcases of_mem_compactMembers member with rfl | rfl | ⟨pair, listed, inName | inValue⟩
        · decide
        · decide
        · exact printable_quote inName
        · exact ih pair listed char inValue
      · decide

end Json

end DecoratorLint
