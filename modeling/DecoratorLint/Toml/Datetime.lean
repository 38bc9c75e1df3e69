import DecoratorLint.Toml.Reader

/-!
# Points in time

Dates, times of day, and both together with or without an offset.  The fields
have to be in range, and a date has to exist.  What is kept is the canonical
text: `T` between date and time, no zeros at the end of a fraction, which has at
most nine digits, and `Z` for an offset written with that letter.
-/

namespace DecoratorLint.Toml

/-- A number of exactly as many digits as told. -/
def fixedDigits (count : Nat) : Reader Nat := do
  let digits := (← get).take count
  demand (digits.length = count && digits.all Char.isDigit)
  set ((← get).drop count)
  return digits.foldl (fun value digit => 10 * value + (digit.toNat - '0'.toNat)) 0

/-- A number written with at least as many digits as told. -/
def padded (width value : Nat) : String :=
  let digits := Nat.toDigits 10 value
  String.ofList (List.replicate (width - digits.length) '0' ++ digits)

/-- Whether a year has a leap day. -/
def isLeapYear (year : Nat) : Bool :=
  year % 4 = 0 && (year % 100 ≠ 0 || year % 400 = 0)

/-- The number of days of a month. -/
def daysIn (year month : Nat) : Nat :=
  if month = 2 then
    if isLeapYear year then 29 else 28
  else if [4, 6, 9, 11].contains month then
    30
  else
    31

/-- A date, `YYYY-MM-DD`. -/
def date : Reader String := do
  let year ← fixedDigits 4
  expect "-"
  let month ← fixedDigits 2
  expect "-"
  let day ← fixedDigits 2
  demand (1 ≤ month && month ≤ 12)
  demand (1 ≤ day && day ≤ daysIn year month)
  return padded 4 year ++ "-" ++ padded 2 month ++ "-" ++ padded 2 day

/-- The canonical text of a fraction of a second: at most nine digits, and no
zeros at the end. -/
def fractionText (digits : List Char) : String :=
  match ((digits.take 9).reverse.dropWhile (· = '0')).reverse with
  | [] => ""
  | shown => String.ofList ('.' :: shown)

/-- A time of day, `HH:MM:SS` with an optional fraction. -/
def timeOfDay : Reader String := do
  let hour ← fixedDigits 2
  expect ":"
  let minute ← fixedDigits 2
  expect ":"
  let second ← fixedDigits 2
  demand (hour ≤ 23 && minute ≤ 59 && second ≤ 60)
  let fraction ←
    if ← accept "." then
      let digits ← takeWhile Char.isDigit
      demand !digits.isEmpty
      pure (fractionText digits)
    else
      pure ""
  return padded 2 hour ++ ":" ++ padded 2 minute ++ ":" ++ padded 2 second ++ fraction

/-- The offset after a time of day: `Z`, or hours and minutes with a sign, or
nothing. -/
def offset : Reader String := do
  match ← peek with
  | some 'Z' | some 'z' =>
      let _ ← next
      return "Z"
  | some sign =>
      if sign = '+' || sign = '-' then
        let _ ← next
        let hours ← fixedDigits 2
        expect ":"
        let minutes ← fixedDigits 2
        demand (hours ≤ 23 && minutes ≤ 59)
        let shown := if hours = 0 && minutes = 0 then "+" else String.ofList [sign]
        return shown ++ padded 2 hours ++ ":" ++ padded 2 minutes
      else
        return ""
  | none => return ""

/-- The time after a date, if one follows. -/
def timeAfterDate : Reader String := do
  (do
    let separator ← next
    demand (separator = 'T' || separator = 't' || separator = ' ')
    let time ← timeOfDay
    let zone ← offset
    return "T" ++ time ++ zone) <|> return ""

/-- A date with or without a time, or a time of day. -/
def pointInTime : Reader String := do
  (do
    let day ← date
    return day ++ (← timeAfterDate)) <|> timeOfDay

end DecoratorLint.Toml
