import DecoratorLint.Source.Grammar.Expression

/-!
# The grammar of patterns

The patterns of a `match` statement.  A pattern is read only to know that it is
one; nothing of it is kept.
-/

namespace DecoratorLint.Source.Grammar

/-- What a pattern asks for: patterns inside brackets, and the check of string
literals. -/
structure PatternRules where
  pattern : Parser Unit
  strings : Parser Unit

/-- A number without a sign. -/
def unsignedNumber : Parser Unit :=
  expect .number

/-- A number with an optional minus sign, or the sum or difference of two
numbers. -/
def numberPattern : Parser Unit := do
  let _ ← acceptSymbol "-"
  unsignedNumber
  if (← sees (.symbol "+")) || (← sees (.symbol "-")) then
    let _ ← next
    unsignedNumber

/-- A name with the members written after it; tells whether there is one. -/
def dottedName : Parser Bool := do
  let _ ← name
  let members ← collect do
    optionally (← acceptSymbol ".") name
  return !members.isEmpty

/-- Whether a pattern can start with this token. -/
def startsPattern : Token → Bool
  | .name _ => true
  | .number => true
  | .string _ => true
  | .keyword word => ["None", "True", "False"].contains word
  | .symbol text => ["(", "[", "\x7b", "-", "*"].contains text
  | _ => false

/-- Patterns with commas, up to and including a closing symbol. -/
def patternsUntil (rules : PatternRules) (closing : String) : Parser Unit := do
  if !(← acceptSymbol closing) then
    let _ ← commaList startsPattern rules.pattern
    symbol closing

/-- A key of a mapping pattern: a literal or a dotted name. -/
def mappingKey (rules : PatternRules) : Parser Unit := do
  match ← peek with
  | some (.string _) => rules.strings
  | some (.keyword word) =>
      require (["None", "True", "False"].contains word)
      let _ ← next
  | some (.name _) => require (← dottedName)
  | _ => numberPattern

/-- An entry of a mapping pattern; tells whether it is the one that takes the
rest. -/
def mappingEntry (rules : PatternRules) : Parser Bool := do
  if ← acceptSymbol "**" then
    let _ ← name
    return true
  else
    mappingKey rules
    symbol ":"
    rules.pattern
    return false

/-- The entries of a mapping pattern and its closing brace.  Only the last entry
may take the rest. -/
def mappingRest (rules : PatternRules) : Parser Unit := do
  if !(← acceptSymbol "\x7d") then
    let starts (token : Token) : Bool := startsPattern token || token = .symbol "**"
    let (entries, _) ← commaList starts (mappingEntry rules)
    require (entries.dropLast.all (!·))
    symbol "\x7d"

/-- An argument of a class pattern; tells whether it has a name. -/
def classArgument (rules : PatternRules) : Parser Bool := do
  if (← peekSecond) = some (.symbol "=") then
    let _ ← name
    symbol "="
    rules.pattern
    return true
  else
    rules.pattern
    return false

/-- The arguments of a class pattern and its closing bracket.  Those with a name
come last. -/
def classArguments (rules : PatternRules) : Parser Unit := do
  if !(← acceptSymbol ")") then
    let (isNamed, _) ← commaList startsPattern (classArgument rules)
    require ((isNamed.dropWhile (!·)).all id)
    symbol ")"

/-- A pattern without alternatives. -/
def closedPattern (rules : PatternRules) : Parser Unit := do
  match ← peek with
  | some (.string _) => rules.strings
  | some (.keyword word) =>
      require (["None", "True", "False"].contains word)
      let _ ← next
  | some (.name _) =>
      let _ ← dottedName
      if ← acceptSymbol "(" then
        classArguments rules
  | some (.symbol "*") =>
      let _ ← next
      let _ ← name
  | some (.symbol "(") =>
      let _ ← next
      patternsUntil rules ")"
  | some (.symbol "[") =>
      let _ ← next
      patternsUntil rules "]"
  | some (.symbol "\x7b") =>
      let _ ← next
      mappingRest rules
  | _ => numberPattern

/-- A pattern: alternatives, and perhaps a name for what matched.  The name may
not be the wildcard. -/
def patternStep (rules : PatternRules) : Parser Unit := do
  closedPattern rules
  let _ ← collect do
    optionally (← acceptSymbol "|") (closedPattern rules)
  if ← acceptKeyword "as" then
    require ((← name) ≠ "_")

/-- A pattern, nested at most as deep as the counter says. -/
def pattern (checkStrings : Parser Unit) : Nat → Parser Unit
  | 0 => failure
  | fuel + 1 => fun bound =>
      patternStep { pattern := pattern checkStrings fuel, strings := checkStrings } bound

/-- The patterns of a case: one or more, with commas. -/
def casePatterns (checkStrings : Parser Unit) (fuel : Nat) : Parser Unit := do
  let _ ← commaList startsPattern (pattern checkStrings fuel)

end DecoratorLint.Source.Grammar
