import DecoratorLint.Toml.Value

/-!
# Reading characters of a document

The small parts from which the rules for TOML are made: reading characters,
white space, comments and line ends.
-/

namespace DecoratorLint.Toml

/-- Reads characters from the front of a text, or fails. -/
abbrev Reader := StateT (List Char) Option

/-- The next character, which stays. -/
def peek : Reader (Option Char) := do
  return (← get).head?

/-- Read the next character, whatever it is. -/
def next : Reader Char := do
  match ← get with
  | [] => failure
  | char :: rest =>
      set rest
      return char

/-- Go on only if the condition holds. -/
def demand (condition : Bool) : Reader Unit :=
  if condition then pure () else failure

/-- Read a word if the text starts with it, and tell whether it does. -/
def accept (word : String) : Reader Bool := do
  let text ← get
  if word.toList.isPrefixOf text then
    set (text.drop word.toList.length)
    return true
  else
    return false

/-- Read a word. -/
def expect (word : String) : Reader Unit := do
  demand (← accept word)

/-- Read the characters from the front that satisfy a test. -/
def takeWhile (test : Char → Bool) : Reader (List Char) := do
  let text ← get
  set (text.dropWhile test)
  return text.takeWhile test

/-- The results of a step that is taken until it gives none.  The counter bounds
the number of steps. -/
def collectUpTo {α : Type} (step : Reader (Option α)) : Nat → Reader (List α)
  | 0 => failure
  | fuel + 1 => do
      match ← step with
      | none => return []
      | some result => return result :: (← collectUpTo step fuel)

/-- The results of a step that is taken until it gives none.  Every step that
gives one reads a character. -/
def collect {α : Type} (step : Reader (Option α)) : Reader (List α) := do
  let text ← get
  collectUpTo step (text.length + 1)

/-- Whether a character may stand in a comment: a tab, or anything but a control
character. -/
def isCommentChar (char : Char) : Bool :=
  char = '\t' || (0x20 ≤ char.toNat && char.toNat ≠ 0x7F)

/-- Skip spaces and tabs. -/
def blanks : Reader Unit := do
  let _ ← takeWhile fun char => char = ' ' || char = '\t'

/-- Skip a comment, if one starts here. -/
def comment : Reader Unit := do
  if ← accept "#" then
    let _ ← takeWhile isCommentChar

/-- Read a line end, and tell whether there is one. -/
def acceptLineEnd : Reader Bool := do
  if ← accept "\n" then return true else accept "\r\n"

/-- The end of a line: blanks, a comment, and the line end or the end of the
text. -/
def lineEnd : Reader Unit := do
  blanks
  comment
  if !(← get).isEmpty then
    demand (← acceptLineEnd)

/-- Skip blanks, comments and line ends. -/
def gap : Reader Unit := do
  let _ ← collect do
    blanks
    comment
    if ← acceptLineEnd then return some () else return none

end DecoratorLint.Toml
