import DecoratorLint.Source.Number
import DecoratorLint.Source.StringLiteral
import DecoratorLint.Text.Emoji

/-!
# Tokens

The words of the source language: names, keywords, numbers, strings and
symbols, and the three marks of its layout.  Keywords and symbols carry their
spelling.
-/

namespace DecoratorLint.Source

/-- A token of the source language. -/
inductive Token where
  | name (identifier : String)
  | number
  | string (literal : StringLiteral)
  | keyword (word : String)
  | symbol (text : String)
  | newline
  | indent
  | dedent
deriving Repr, DecidableEq

/-- A token and the byte offset at which it starts. -/
structure Lexeme where
  token : Token
  start : Nat
deriving Repr, DecidableEq

namespace Token

/-- Words that are keywords wherever they stand. -/
def hardKeywords : List String :=
  ["False", "None", "True", "and", "as", "assert", "async", "await", "break", "class",
    "continue", "def", "del", "elif", "else", "except", "finally", "for", "from", "global",
    "if", "import", "in", "is", "lambda", "nonlocal", "not", "or", "pass", "raise", "return",
    "try", "while", "with", "yield"]

/-- Words that are keywords only where a statement of theirs can start. -/
def softKeywords : List String :=
  ["match", "case", "type"]

/-- The token of a word. -/
def ofWord (word : String) : Token :=
  if hardKeywords.contains word || softKeywords.contains word then
    .keyword word
  else
    .name word

/-- The symbols, the longer ones first so that the first match is the longest. -/
def symbols : List String :=
  ["**=", "//=", "<<=", ">>=", "...",
    "==", "!=", "<=", ">=", "<<", ">>", "**", "//", "->", ":=", "+=", "-=", "*=", "/=", "%=",
    "|=", "^=", "&=", "@=",
    "+", "-", "*", "/", "%", "|", "^", "&", "~", "<", ">", "=", "@", "(", ")", "[", "]",
    "\x7b", "\x7d", ":", ";", ",", "."]

/-- The symbol at the start of a text, and the text after it. -/
def symbol? (text : List Placed) : Option (String × List Placed) :=
  symbols.findSome? fun spelling =>
    (Placed.afterWord? spelling.toList text).map (spelling, ·)

/-- Whether a token opens a bracket. -/
def opensBracket (token : Token) : Bool :=
  token = .symbol "(" || token = .symbol "[" || token = .symbol "\x7b"

/-- Whether a token closes a bracket. -/
def closesBracket (token : Token) : Bool :=
  token = .symbol ")" || token = .symbol "]" || token = .symbol "\x7d"

/-- Whether a number starts here: at a digit, or at a point before a digit. -/
def startsNumber : List Placed → Bool
  | [] => false
  | first :: rest =>
      first.char.isDigit ||
        (first.char = '.' &&
          match rest with
          | [] => false
          | second :: _ => second.char.isDigit)

/-- The token at the start of a text that begins with neither a blank nor a line
end, and the text after it.  A letter prefix before a quote belongs to the
string. -/
def scan? (text : List Placed) : Option (Token × List Placed) :=
  match text with
  | [] => none
  | first :: rest =>
      match StringLiteral.prefixed? text with
      | some (literal, fromQuote) =>
          (StringLiteral.quoted? fromQuote).map fun (content, left) =>
            (.string (literal content), left)
      | none =>
          if Text.isIdentifierStart first.char then
            let (word, left) := Placed.span Text.isIdentifierContinue text
            some (ofWord (String.ofList word), left)
          else if Text.isEmojiPresentation first.char then
            some (.name (String.ofList [first.char]), rest)
          else if startsNumber text then
            (Number.scan? text).map (.number, ·)
          else
            (symbol? text).map fun (spelling, left) => (.symbol spelling, left)

end Token

end DecoratorLint.Source
