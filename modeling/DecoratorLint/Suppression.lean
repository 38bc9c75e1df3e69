import DecoratorLint.Text.Blank
import DecoratorLint.Text.Lines
import DecoratorLint.Text.Pieces
import DecoratorLint.Text.Sorted

/-!
# Suppressing violations by comments

A line can carry a comment `# noqa`, which suppresses every rule on that line,
or `# noqa: ID1, ID2`, which suppresses the rules with these ids.  A line that
holds nothing but `# annotation-lint: noqa` takes the whole file out.

Only the first such comment of a line counts.  The list of ids ends at the first
character that is neither an ASCII letter or digit nor a comma nor blank; ids
are compared in upper case.  A list without an id suppresses every rule.
-/

namespace DecoratorLint

/-- What the comments of a text suppress. -/
structure Suppression where
  /-- The file is not checked at all. -/
  skipsFile : Bool := false
  /-- The lines on which every rule is suppressed. -/
  everyRule : List Nat := []
  /-- The lines on which some rules are suppressed, with their ids. -/
  someRules : List (Nat × List String) := []
deriving Repr, DecidableEq

namespace Suppression

/-- The text after a word, if it starts with that word. -/
def afterWord? (word text : List Char) : Option (List Char) :=
  if word.isPrefixOf text then some (text.drop word.length) else none

/-- The text after blanks and a word. -/
def afterBlanks? (word text : List Char) : Option (List Char) :=
  afterWord? word (text.dropWhile Text.isBlank)

/-- Whether a line is the comment that takes the whole file out. -/
def isFileDirective (line : List Char) : Bool :=
  let rest := do
    let hash ← afterBlanks? "#".toList line
    let tool ← afterBlanks? "annotation-lint".toList hash
    let colon ← afterBlanks? ":".toList tool
    afterBlanks? "noqa".toList colon
  match rest with
  | some after => after.all Text.isBlank
  | none => false

/-- The text after the first comment sign that blanks and `noqa` follow. -/
def afterDirective? : List Char → Option (List Char)
  | [] => none
  | char :: rest =>
      if char = '#' then
        match afterBlanks? "noqa".toList rest with
        | some after => some after
        | none => afterDirective? rest
      else
        afterDirective? rest

/-- Whether a character may stand in a list of ids. -/
def isListChar (char : Char) : Bool :=
  char.isAlphanum || char = ',' || Text.isBlank char

/-- Whether a character stands between two ids of a list. -/
def isListSeparator (char : Char) : Bool :=
  char = ',' || Text.isBlank char

/-- The ids in a list, in upper case and strictly increasing. -/
def idsIn (list : List Char) : List String :=
  let ids := (Text.pieces isListSeparator list).filter (!·.isEmpty)
  Text.sortedUnique (ids.map fun id => String.ofList (id.map Char.toUpper))

/-- The ids after `noqa`: those in the list after a colon. -/
def directiveIds (after : List Char) : List String :=
  match afterBlanks? ":".toList after with
  | some list => idsIn (list.takeWhile isListChar)
  | none => []

/-- Add what the line of the given number says. -/
def addLine (suppression : Suppression) (number : Nat) (line : List Char) : Suppression :=
  if isFileDirective line then
    { suppression with skipsFile := true }
  else
    match afterDirective? line with
    | none => suppression
    | some after =>
        match directiveIds after with
        | [] => { suppression with everyRule := suppression.everyRule ++ [number] }
        | ids => { suppression with someRules := suppression.someRules ++ [(number, ids)] }

/-- Add what lines say, the first of which has the given number. -/
def addLines (suppression : Suppression) : Nat → List (List Char) → Suppression
  | _, [] => suppression
  | number, line :: rest => (suppression.addLine number line).addLines (number + 1) rest

/-- What the comments of a source text suppress. -/
def ofSource (source : List Char) : Suppression :=
  ({} : Suppression).addLines 1 (Text.lines source)

/-- The ids of the rules that are suppressed one by one on a line. -/
def idsAt (suppression : Suppression) (line : Nat) : List String :=
  (suppression.someRules.lookup line).getD []

/-- Whether a rule is suppressed on a line. -/
def suppresses (suppression : Suppression) (line : Nat) (id : String) : Bool :=
  suppression.skipsFile || suppression.everyRule.contains line ||
    (suppression.idsAt line).contains id

end Suppression

end DecoratorLint
