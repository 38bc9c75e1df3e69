import DecoratorLint.Toml.Text

/-!
# Numbers

Whole numbers in four bases, which have to fit in 64 bits with a sign, and
floating-point numbers, which have to be finite.  An underscore may stand between
two digits.
-/

namespace DecoratorLint.Toml

/-- Digits with single underscores between them, as a list without the
underscores.  There has to be a digit. -/
def digits (isDigit : Char → Bool) : Reader (List Char) := do
  let group : Reader (List Char) := do
    let run ← takeWhile isDigit
    demand !run.isEmpty
    return run
  let first ← group
  let rest ← collect do
    if ← accept "_" then return some (← group) else return none
  return first ++ rest.flatten

/-- The value of digits in a base. -/
def valueOf (base : Nat) (digits : List Char) : Nat :=
  digits.foldl (fun value digit => base * value + (hexValue? digit).getD 0) 0

/-- The least and the greatest whole number of 64 bits with a sign. -/
def integerRange : Int × Int :=
  (-9223372036854775808, 9223372036854775807)

/-- A whole number that fits. -/
def bounded (value : Int) : Reader Toml := do
  demand (integerRange.1 ≤ value && value ≤ integerRange.2)
  return .integer value

/-- Whether digits are those of a whole number: no zero comes first, unless it is
the only digit. -/
def isPlainNumber (digits : List Char) : Bool :=
  digits.length = 1 || digits.head? ≠ some '0'

/-- The least number that is rounded to infinity as a double. -/
def overflowBound : Nat :=
  Nat.pow 2 1024 - Nat.pow 2 970

/-- Whether the number with these digits and this decimal exponent is too large
to be rounded to a finite double. -/
def overflows (digits : List Char) (exponent : Int) : Bool :=
  let mantissa := valueOf 10 digits
  if mantissa = 0 then
    false
  else
    let size : Int := (Nat.toDigits 10 mantissa).length + exponent
    if size > 310 then
      true
    else if size < 300 then
      false
    else if exponent ≥ 0 then
      mantissa * Nat.pow 10 exponent.toNat ≥ overflowBound
    else
      mantissa ≥ overflowBound * Nat.pow 10 (-exponent).toNat

/-- The exponent of a floating-point number after its mark. -/
def exponentValue : Reader Int := do
  let isNegative ←
    if ← accept "-" then pure true else do
      let _ ← accept "+"
      pure false
  let value := valueOf 10 (← digits Char.isDigit)
  return if isNegative then -(value : Int) else value

/-- What follows the digits before the point of a decimal number. -/
def decimalRest (isNegative : Bool) (whole : List Char) : Reader Toml := do
  let hasPoint ← accept "."
  let fraction ← if hasPoint then digits Char.isDigit else pure []
  let hasExponent ← if ← accept "e" then pure true else accept "E"
  if hasPoint || hasExponent then
    let exponent ← if hasExponent then exponentValue else pure 0
    demand (isNegative || !overflows (whole ++ fraction) (exponent - fraction.length))
    return .float
  else
    let value : Int := valueOf 10 whole
    bounded (if isNegative then -value else value)

/-- A decimal number after its sign, or one of the words for special values. -/
def decimal (isNegative : Bool) : Reader Toml := do
  if ← accept "inf" then
    return .float
  else if ← accept "nan" then
    return .float
  else
    let whole ← digits Char.isDigit
    demand (isPlainNumber whole)
    decimalRest isNegative whole

/-- A whole number in a base, after the mark of that base. -/
def based (base : Nat) (isDigit : Char → Bool) : Reader Toml := do
  bounded (valueOf base (← digits isDigit))

/-- A number. -/
def number : Reader Toml := do
  if ← accept "0x" then
    based 16 fun char => (hexValue? char).isSome
  else if ← accept "0o" then
    based 8 fun char => '0' ≤ char && char ≤ '7'
  else if ← accept "0b" then
    based 2 fun char => char = '0' || char = '1'
  else if ← accept "-" then
    decimal true
  else
    let _ ← accept "+"
    decimal false

end DecoratorLint.Toml
