import DecoratorLint.Source.Grammar.Statement

/-!
# Reading a program

A source text is a program when it can be cut into tokens and all of its tokens
are statements.  Reading gives the statements, or nothing.
-/

namespace DecoratorLint.Source

/-- The statements of a program, or nothing when the text is no program. -/
def parse? (source : List Char) : Option (List Stmt) := do
  let lexemes ← SoftKeyword.programTokens? source
  let block := Grammar.block source.length (lexemes.length + 1)
  let (statements, rest) ← (Grammar.program (Grammar.stmtRules source.length block)).apply lexemes
  if rest.isEmpty then some statements else none

end DecoratorLint.Source
