import DecoratorLint.Source.StringLiteral
import DecoratorLint.Text.Blank

/-!
# Replacement fields of formatted strings

A formatted string holds expressions in braces.  This module finds them: it
returns the texts of all expressions, in order, or nothing when the braces, the
conversions or the escapes are not in order.  Whether a text is an expression is
the grammar's question.

A field is `{expression}`, with an optional `=` that shows the expression
itself, an optional conversion `!s`, `!r` or `!a`, and an optional format
specification after `:`.  A specification may hold fields of its own, and those
no further ones.  Outside of fields a doubled brace stands for one brace.
-/

namespace DecoratorLint.Source.Interpolation

/-- The texts of the expressions found so far. -/
abbrev Fields := List (List Char)

/-- Finds the fields at the start of a text and tells what is left of it. -/
abbrev Reader := List Char → Option (Fields × List Char)

/-- The characters up to and including the next given quote, and the text after
it. -/
def throughQuote? (quote : Char) (text : List Char) : Option (List Char × List Char) :=
  match text.dropWhile (· ≠ quote) with
  | [] => none
  | _ :: left => some (text.takeWhile (· ≠ quote) ++ [quote], left)

/-- A format specification: everything up to the brace that closes its field.
`nested` reads the fields inside it. -/
def specification (nested : Reader) : Nat → Reader
  | _, [] => some ([], [])
  | 0, _ :: _ => none
  | fuel + 1, char :: rest =>
      if char = '{' then
        match nested (char :: rest) with
        | none => none
        | some (inner, left) =>
            (specification nested fuel left).map fun (more, after) => (inner ++ more, after)
      else if char = '}' then
        some ([], char :: rest)
      else
        specification nested fuel rest

/-- The rest of a field after its opening brace.  `expression` holds the
characters of its expression in reverse, `brackets` the brackets still open in
it, `isShown` tells that an `=` came after the expression, and `inner` holds the
fields of its format specification. -/
def fieldRest (nested : Reader) :
    Nat → List Char → List Char → Bool → Fields → Reader
  | _, _, _, _, _, [] => none
  | 0, _, _, _, _, _ :: _ => none
  | fuel + 1, expression, brackets, isShown, inner, char :: rest =>
      let isComparison := ['!', '=', '>', '<'].contains char && rest.head? = some '='
      let atTop := brackets.isEmpty
      let close (opening : Char) : Option (Fields × List Char) :=
        match brackets with
        | last :: outer =>
            if last = opening then
              fieldRest nested fuel (char :: expression) outer isShown inner rest
            else
              none
        | [] => none
      if isComparison then
        fieldRest nested fuel ('=' :: char :: expression) brackets isShown inner (rest.drop 1)
      else if char = '!' && atTop then
        match rest with
        | conversion :: left =>
            if (Text.trim expression).isEmpty then
              none
            else if ['s', 'a', 'r'].contains conversion &&
                (left.head? = some '}' || left.head? = some ':') then
              fieldRest nested fuel expression brackets isShown inner left
            else
              none
        | [] => none
      else if char = '=' && atTop then
        fieldRest nested fuel expression brackets true inner rest
      else if char = ':' && atTop then
        match specification nested rest.length rest with
        | none => none
        | some (found, left) =>
            fieldRest nested fuel expression brackets isShown (inner ++ found) left
      else if ['(', '[', '{'].contains char then
        fieldRest nested fuel (char :: expression) (char :: brackets) isShown inner rest
      else if char = ')' then
        close '('
      else if char = ']' then
        close '['
      else if char = '}' then
        if !atTop then
          close '{'
        else if (Text.trim expression).isEmpty then
          none
        else
          some (expression.reverse :: inner, rest)
      else if StringLiteral.isQuote char then
        match throughQuote? char rest with
        | none => none
        | some (quoted, left) =>
            fieldRest nested fuel (quoted.reverse ++ char :: expression) brackets isShown
              inner left
      else if char = '\\' then
        none
      else if isShown then
        if char = ' ' then
          fieldRest nested fuel expression brackets isShown inner rest
        else
          none
      else
        fieldRest nested fuel (char :: expression) brackets isShown inner rest

/-- A field after its opening brace. -/
def field (nested : Reader) : Reader := fun text =>
  fieldRest nested text.length [] [] false [] text

/-- Literal text with fields in it.  Inside a specification a closing brace ends
the text and is left for the field around it; elsewhere braces that stand for
themselves are doubled. -/
def literalText (readField : Reader) (isNested isRaw : Bool) : Nat → Reader
  | _, [] => some ([], [])
  | 0, _ :: _ => none
  | fuel + 1, char :: rest =>
      let proceed (left : List Char) := literalText readField isNested isRaw fuel left
      if char = '{' then
        if !isNested && rest.head? = some '{' then
          proceed (rest.drop 1)
        else
          match readField rest with
          | none => none
          | some (inner, left) =>
              (proceed left).map fun (more, after) => (inner ++ more, after)
      else if char = '}' then
        if isNested then
          some ([], char :: rest)
        else if rest.head? = some '}' then
          proceed (rest.drop 1)
        else
          none
      else if char = '\\' && !isRaw then
        if rest.head? = some '{' || rest.head? = some '}' then
          proceed rest
        else
          match StringLiteral.escape? false rest with
          | some left => proceed left
          | none => none
      else
        proceed rest

/-- The fields inside a format specification; these may not have fields in
specifications of their own. -/
def nestedFields (isRaw : Bool) : Reader := fun text =>
  literalText (field fun _ => none) true isRaw text.length text

/-- The texts of all expressions in the content of a formatted string. -/
def expressions? (isRaw : Bool) (content : List Char) : Option Fields :=
  (literalText (field (nestedFields isRaw)) false isRaw content.length content).map Prod.fst

end DecoratorLint.Source.Interpolation
