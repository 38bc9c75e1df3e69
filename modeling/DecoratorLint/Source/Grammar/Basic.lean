import DecoratorLint.Source.SoftKeyword

/-!
# Reading a list of tokens

A parser reads some tokens from the front of a list and gives a result, or
fails.  Which rule applies is decided by looking at the next tokens, and a rule
that has started does not give way to another one unless it says so.
-/

namespace DecoratorLint.Source.Grammar

/-- Reads tokens from the front of a list, or fails.  It knows a number that bounds
the number of tokens. -/
abbrev Parser := ReaderT Nat (StateT (List Lexeme) Option)

/-- What a parser makes of a list of tokens, and the tokens that it leaves. -/
def Parser.apply {α : Type} (parser : Parser α) (tokens : List Lexeme) :
    Option (α × List Lexeme) :=
  (parser.run tokens.length).run tokens

/-- The next token, which stays. -/
def peek : Parser (Option Token) := do
  return (← get).head?.map Lexeme.token

/-- The token after the next one; both stay. -/
def peekSecond : Parser (Option Token) := do
  return ((← get).drop 1).head?.map Lexeme.token

/-- The byte offset at which the next token starts. -/
def position : Parser Nat := do
  return match (← get).head? with
    | some lexeme => lexeme.start
    | none => 0

/-- Read the next token, whatever it is. -/
def next : Parser Token := do
  match ← get with
  | [] => failure
  | lexeme :: rest =>
      set rest
      return lexeme.token

/-- Whether the next token is the given one; it stays. -/
def sees (token : Token) : Parser Bool := do
  return (← peek) = some token

/-- Whether the next token is the given one; if so it is read. -/
def accept (token : Token) : Parser Bool := do
  if ← sees token then
    let _ ← next
    return true
  else
    return false

/-- Read the given token. -/
def expect (token : Token) : Parser Unit := do
  if ← accept token then return () else failure

/-- Read the given symbol. -/
def symbol (text : String) : Parser Unit :=
  expect (.symbol text)

/-- Read the given keyword. -/
def keyword (word : String) : Parser Unit :=
  expect (.keyword word)

/-- Whether the next token is the given symbol; if so it is read. -/
def acceptSymbol (text : String) : Parser Bool :=
  accept (.symbol text)

/-- Whether the next token is the given keyword; if so it is read. -/
def acceptKeyword (word : String) : Parser Bool :=
  accept (.keyword word)

/-- Read a name. -/
def name : Parser String := do
  match ← next with
  | .name identifier => return identifier
  | _ => failure

/-- Go on only if the condition holds. -/
def require (condition : Bool) : Parser Unit :=
  if condition then pure () else failure

/-- What a parser reads if the condition holds. -/
def optionally {α : Type} (condition : Bool) (parser : Parser α) : Parser (Option α) := do
  if condition then return some (← parser) else return none

/-- The results of a step that is taken until it gives none.  The counter bounds
the number of steps. -/
def collectUpTo {α : Type} (step : Parser (Option α)) : Nat → Parser (List α)
  | 0 => failure
  | fuel + 1 => do
      match ← step with
      | none => return []
      | some result => return result :: (← collectUpTo step fuel)

/-- The results of a step that is taken until it gives none.  Every step that
gives one reads a token, so the number of tokens bounds the number of steps. -/
def collect {α : Type} (step : Parser (Option α)) : Parser (List α) := do
  collectUpTo step ((← read) + 1)

/-- Carry a value through a step until the step gives none.  The counter bounds
the number of steps. -/
def growUpTo {α : Type} (step : α → Parser (Option α)) : Nat → α → Parser α
  | 0, _ => failure
  | fuel + 1, value => do
      match ← step value with
      | none => return value
      | some larger => growUpTo step fuel larger

/-- Carry a value through a step until the step gives none.  Every step that gives
one reads a token. -/
def grow {α : Type} (step : α → Parser (Option α)) (value : α) : Parser α := do
  growUpTo step ((← read) + 1) value

/-- The items after the first in a list with commas.  After a comma the list
goes on if `starts` accepts the next token; otherwise that comma ends it, and the
flag tells so.  The counter bounds the number of items. -/
def commaItemsUpTo {α : Type} (starts : Token → Bool) (item : Parser α) :
    Nat → Parser (List α × Bool)
  | 0 => failure
  | fuel + 1 => do
      if ← acceptSymbol "," then
        if (← peek).any starts then
          let value ← item
          let (more, endsWithComma) ← commaItemsUpTo starts item fuel
          return (value :: more, endsWithComma)
        else
          return ([], true)
      else
        return ([], false)

/-- At least one item, with commas between the items.  The list may end with a
comma, and the flag tells whether it does. -/
def commaList {α : Type} (starts : Token → Bool) (item : Parser α) :
    Parser (List α × Bool) := do
  let first ← item
  let (more, endsWithComma) ← commaItemsUpTo starts item ((← read) + 1)
  return (first :: more, endsWithComma)

/-- At least one item, with a comma between two of them and none at the end. -/
def strictCommaList {α : Type} (item : Parser α) : Parser (List α) := do
  let first ← item
  let rest ← collect do
    optionally (← acceptSymbol ",") item
  return first :: rest

end DecoratorLint.Source.Grammar
