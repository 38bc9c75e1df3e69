import DecoratorLint.Source.Token

/-!
# Layout: from a text to its tokens

Statements end with a line, and blocks are marked by indentation.  Inside
brackets line ends and indentation mean nothing; a backslash at the end of a
line joins the next line to it; comments and empty lines count for nothing.

The depth of a line is a number of tabs followed by a number of spaces.  Two
depths are comparable when neither order depends on the width of a tab.
-/

namespace DecoratorLint.Source

/-- The indentation of a line. -/
structure Depth where
  tabs : Nat
  spaces : Nat
deriving Repr, DecidableEq

namespace Depth

/-- No indentation. -/
def zero : Depth :=
  ⟨0, 0⟩

/-- Compare two depths; nothing when the answer hangs on the width of a tab. -/
def compare? (first second : Depth) : Option Ordering :=
  match compare first.tabs second.tabs with
  | .lt => if first.spaces ≤ second.spaces then some .lt else none
  | .gt => if first.spaces ≥ second.spaces then some .gt else none
  | .eq => some (compare first.spaces second.spaces)

end Depth

namespace Layout

/-- The depth of the next line that has a token, and the text from that token
on.  Comments, empty lines and form feeds start the count anew; a tab after a
space is refused. -/
def measure? : Depth → List Placed → Option (Depth × List Placed)
  | _, [] => some (.zero, [])
  | depth, first :: rest =>
      if first.char = ' ' then
        measure? { depth with spaces := depth.spaces + 1 } rest
      else if first.char = '\t' then
        if depth.spaces = 0 then
          measure? { depth with tabs := depth.tabs + 1 } rest
        else
          none
      else if first.char = '\x0c' || first.char = '\n' then
        measure? .zero rest
      else if first.char = '#' then
        comment? rest
      else
        some (depth, first :: rest)
where
  /-- Skip the rest of a comment, up to its line end. -/
  comment? : List Placed → Option (Depth × List Placed)
    | [] => some (.zero, [])
    | first :: rest => if first.char = '\n' then measure? .zero rest else comment? rest

/-- The marks for a line of the given depth, with the open depths after it.  The
innermost open depth comes first; the outermost is never closed. -/
def indentation? (depth : Depth) : List Depth → Option (List Token × List Depth)
  | [] =>
      match depth.compare? .zero with
      | some .eq => some ([], [])
      | some .gt => some ([.indent], [depth])
      | _ => none
  | innermost :: outer =>
      match depth.compare? innermost with
      | some .eq => some ([], innermost :: outer)
      | some .gt => some ([.indent], depth :: innermost :: outer)
      | some .lt => (closing outer).map fun (marks, left) => (.dedent :: marks, left)
      | none => none
where
  /-- Close the depths that lie deeper than the line; one of the open depths has
  to be that of the line. -/
  closing : List Depth → Option (List Token × List Depth)
    | [] => if depth.compare? .zero = some .eq then some ([], []) else none
    | innermost :: outer =>
        match depth.compare? innermost with
        | some .eq => some ([], innermost :: outer)
        | some .lt => (closing outer).map fun (marks, left) => (.dedent :: marks, left)
        | _ => none

/-- Where the reading of a text stands: the text that is left, the number of
open brackets, the open depths and whether a line is about to start. -/
structure Cursor where
  rest : List Placed
  brackets : Nat := 0
  depths : List Depth := []
  atLineStart : Bool := true

/-- The byte offset of the next character; the end of the text has none and
gives zero. -/
def Cursor.offset (cursor : Cursor) : Nat :=
  match cursor.rest with
  | [] => 0
  | first :: _ => first.offset

/-- At the start of a line, read its indentation. -/
def Cursor.startLine? (cursor : Cursor) : Option (List Lexeme × Cursor) := do
  if cursor.atLineStart then
    let (depth, rest) ← measure? .zero cursor.rest
    let (marks, depths) ← indentation? depth cursor.depths
    let next : Cursor := { cursor with rest, depths, atLineStart := rest.isEmpty }
    pure (marks.map (⟨·, next.offset⟩), next)
  else
    pure ([], cursor)

/-- Read one token, one run of blanks, one comment or one line end from a text
that is not empty. -/
def Cursor.advance? (cursor : Cursor) : Option (List Lexeme × Cursor) :=
  match cursor.rest with
  | [] => none
  | first :: rest =>
      if first.char = '\n' then
        if cursor.brackets = 0 then
          some ([⟨.newline, first.offset⟩], { cursor with rest, atLineStart := true })
        else
          some ([], { cursor with rest })
      else if first.char = ' ' || first.char = '\t' || first.char = '\x0c' then
        some ([], { cursor with rest })
      else if first.char = '#' then
        some ([], { cursor with rest := (Placed.span (· ≠ '\n') rest).2 })
      else if first.char = '\\' then
        match rest with
        | lineEnd :: next :: more =>
            if lineEnd.char = '\n' then
              some ([], { cursor with rest := next :: more })
            else
              none
        | _ => none
      else
        match Token.scan? (first :: rest) with
        | none => none
        | some (token, left) =>
            let lexemes := [⟨token, first.offset⟩]
            if token.opensBracket then
              some (lexemes, { cursor with rest := left, brackets := cursor.brackets + 1 })
            else if token.closesBracket then
              if cursor.brackets = 0 then
                none
              else
                some (lexemes, { cursor with rest := left, brackets := cursor.brackets - 1 })
            else
              some (lexemes, { cursor with rest := left })

/-- The marks at the end of a text: a line end if one is missing, and the end of
every open block. -/
def Cursor.finish? (cursor : Cursor) : Option (List Lexeme) :=
  if cursor.brackets = 0 then
    let lineEnd := if cursor.atLineStart then [] else [⟨.newline, 0⟩]
    some (lineEnd ++ cursor.depths.map fun _ => ⟨.dedent, 0⟩)
  else
    none

/-- The tokens from a cursor on.  Every round reads at least one character, so
the length of the text bounds their number. -/
def tokensFrom : Nat → Cursor → Option (List Lexeme)
  | 0, _ => none
  | fuel + 1, cursor => do
      let (marks, line) ← cursor.startLine?
      if line.rest.isEmpty then
        let closing ← line.finish?
        pure (marks ++ closing)
      else
        let (lexemes, next) ← line.advance?
        let more ← tokensFrom fuel next
        pure (marks ++ lexemes ++ more)

/-- The tokens of a text, or nothing when it cannot be cut into tokens. -/
def tokens? (text : List Placed) : Option (List Lexeme) :=
  tokensFrom (text.length + 1) { rest := text }

end Layout

end DecoratorLint.Source
