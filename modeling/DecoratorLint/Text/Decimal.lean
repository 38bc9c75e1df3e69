/-!
# Decimal numerals

Writing a natural number with decimal digits and reading it back.
-/

namespace DecoratorLint.Text

/-- The character of a digit. -/
def digitChar (digit : Nat) : Char :=
  Char.ofNat ('0'.toNat + digit)

/-- The decimal digits of a number; zero has one digit. -/
def decimal (number : Nat) : List Char :=
  if number < 10 then
    [digitChar number]
  else
    decimal (number / 10) ++ [digitChar (number % 10)]
termination_by number

/-- The number with the given decimal digits. -/
def decimalValue (digits : List Char) : Nat :=
  digits.foldl (fun value digit => 10 * value + (digit.toNat - '0'.toNat)) 0

/-- A number as a string. -/
def showNat (number : Nat) : String :=
  String.ofList (decimal number)

theorem decimal_of_lt {number : Nat} (h : number < 10) :
    decimal number = [digitChar number] := by
  rw [decimal, if_pos h]

theorem decimal_of_ge {number : Nat} (h : 10 ≤ number) :
    decimal number = decimal (number / 10) ++ [digitChar (number % 10)] := by
  rw [decimal, if_neg (by omega)]

/-- A numeral is never empty. -/
theorem decimal_ne_nil (number : Nat) : decimal number ≠ [] := by
  by_cases h : number < 10
  · simp [decimal_of_lt h]
  · simp [decimal_of_ge (Nat.le_of_not_lt h)]

end DecoratorLint.Text
