import DecoratorLint.Source.Layout

/-!
# Keywords that can also be names

The words `match`, `case` and `type` are keywords only at the start of a line,
and only when the rest of the line looks like the statement they introduce.
Everywhere else they are names.
-/

namespace DecoratorLint.Source.SoftKeyword

/-- Whether the rest of a line has a colon outside of brackets that is not the
first token and does not belong to a `lambda`.  `depth` counts open brackets,
`isFirst` tells that no token has been passed, and `inLambda` that a `lambda`
still awaits its colon. -/
def opensBlock (depth : Nat) (isFirst inLambda : Bool) : List Lexeme → Bool
  | [] => false
  | lexeme :: rest =>
      match lexeme.token with
      | .newline => false
      | .keyword word =>
          opensBlock depth false (inLambda || (word = "lambda" && depth = 0)) rest
      | .symbol text =>
          if text = ":" && depth = 0 then
            if inLambda then
              opensBlock depth false false rest
            else
              !isFirst || opensBlock depth false false rest
          else if lexeme.token.opensBracket then
            opensBlock (depth + 1) false inLambda rest
          else if lexeme.token.closesBracket then
            opensBlock (depth - 1) false inLambda rest
          else
            opensBlock depth false inLambda rest
      | _ => opensBlock depth false inLambda rest

/-- Whether an equals sign follows, with nothing but square brackets and what
they enclose before it. -/
def reachesEquals (depth : Nat) : List Lexeme → Bool
  | [] => false
  | lexeme :: rest =>
      if lexeme.token = .newline then
        false
      else if lexeme.token = .symbol "=" && depth = 0 then
        true
      else if lexeme.token = .symbol "[" then
        reachesEquals (depth + 1) rest
      else if lexeme.token = .symbol "]" then
        reachesEquals (depth - 1) rest
      else
        0 < depth && reachesEquals depth rest

/-- Whether a token can name a type alias. -/
def canBeName : Token → Bool
  | .name _ => true
  | .keyword word => Token.softKeywords.contains word
  | _ => false

/-- Whether the line continues as the definition of a type alias: a name, and an
equals sign after it. -/
def namesAlias : List Lexeme → Bool
  | [] => false
  | lexeme :: rest => canBeName lexeme.token && reachesEquals 0 rest

/-- Whether a soft keyword at the start of a line is a keyword there. -/
def isKeyword (word : String) (rest : List Lexeme) : Bool :=
  if word = "type" then namesAlias rest else opensBlock 0 true false rest

/-- Whether a line starts after this token. -/
def startsLine (token : Token) : Bool :=
  token = .newline || token = .indent || token = .dedent

/-- Turn soft keywords into names wherever they are not keywords.  The flag tells
whether the next token starts a line. -/
def settle : Bool → List Lexeme → List Lexeme
  | _, [] => []
  | atStart, lexeme :: rest =>
      let settled :=
        match lexeme.token with
        | .keyword word =>
            if Token.softKeywords.contains word && !(atStart && isKeyword word rest) then
              Token.name word
            else
              lexeme.token
        | token => token
      { lexeme with token := settled } :: settle (startsLine lexeme.token) rest

/-- The tokens of a whole program. -/
def programTokens? (source : List Char) : Option (List Lexeme) :=
  (Layout.tokens? (Placed.ofSource source)).map (settle true)

/-- The tokens of an expression that stands alone.  No statement starts in it, so
that soft keywords are names. -/
def expressionTokens? (text : List Char) : Option (List Lexeme) :=
  (Layout.tokens? (Placed.ofSource text)).map (settle false)

end DecoratorLint.Source.SoftKeyword
