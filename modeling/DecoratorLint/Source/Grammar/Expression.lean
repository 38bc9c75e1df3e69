import DecoratorLint.Source.Expr
import DecoratorLint.Source.Grammar.Basic
import DecoratorLint.Source.Interpolation

/-!
# The grammar of expressions

The rules for expressions, from conditional expressions down to single names.
A rule that needs an expression inside itself, behind a bracket, an operator or
a keyword, asks for it through `self`; the knot is tied at the end by a counter.
Every such request comes after at least one character of the text, so a counter
as large as the text never runs out.

Operators of one family are read as a chain without regard to their
precedence, which no decorator depends on.
-/

namespace DecoratorLint.Source.Grammar

/-- The rules that other rules ask for from behind a bracket, an operator or a
keyword. -/
inductive ExprRule where
  /-- A whole expression: a conditional, a `lambda`, or a disjunction. -/
  | test
  /-- A chain of `and` and `or`. -/
  | disjunction
  /-- A `not` or a comparison. -/
  | inversion
  /-- A chain of arithmetic operators. -/
  | arithmetic
  /-- An operand with its sign. -/
  | factor
deriving Repr, DecidableEq

/-- How a rule asks for another one. -/
abbrev ExprRules := ExprRule → Parser Expr

/-- Whether an expression can start with this token. -/
def startsExpr : Token → Bool
  | .name _ => true
  | .number => true
  | .string _ => true
  | .keyword word => ["None", "True", "False", "not", "lambda", "await"].contains word
  | .symbol text => ["(", "[", "\x7b", "+", "-", "~", "..."].contains text
  | _ => false

/-- Whether an expression or a starred value can start with this token. -/
def startsElement (token : Token) : Bool :=
  startsExpr token || token = .symbol "*"

/-- A starred value: a star and a chain of arithmetic operators. -/
def starred (self : ExprRules) : Parser Expr := do
  let start ← position
  symbol "*"
  return .starred start (← self .arithmetic)

/-- An assignment expression, or a whole expression. -/
def namedTest (self : ExprRules) : Parser Expr := do
  let start ← position
  if (← peekSecond) = some (.symbol ":=") then
    let target ← name
    symbol ":="
    return .compound start .assignment [.name start target, ← self .test]
  else
    self .test

/-- What an element of a display or a subscript is. -/
inductive ElementKind where
  | plain
  | named
  | starred
deriving Repr, DecidableEq

/-- An element of a display: an expression, an assignment expression, or a
starred value. -/
def element (self : ExprRules) : Parser (ElementKind × Expr) := do
  if ← sees (.symbol "*") then
    return (.starred, ← starred self)
  else if (← peekSecond) = some (.symbol ":=") then
    return (.named, ← namedTest self)
  else
    return (.plain, ← self .test)

/-- A list of expressions and starred values, as one expression: a single value
without a comma is that value. -/
def listAsExpr (start : Nat) (elements : List Expr) (endsWithComma : Bool) : Expr :=
  match elements, endsWithComma with
  | [single], false => single
  | _, _ => .compound start .tuple elements

/-- Expressions and starred values with commas. -/
def testList (self : ExprRules) : Parser Expr := do
  let start ← position
  let item : Parser Expr := do
    if ← sees (.symbol "*") then starred self else self .test
  let (elements, endsWithComma) ← commaList startsElement item
  return listAsExpr start elements endsWithComma

/-- Targets with commas: arithmetic chains and starred values. -/
def targetList (self : ExprRules) : Parser Expr := do
  let start ← position
  let item : Parser Expr := do
    if ← sees (.symbol "*") then starred self else self .arithmetic
  let (elements, endsWithComma) ← commaList startsElement item
  return listAsExpr start elements endsWithComma

/-- A `yield`, with or without a value. -/
def yieldExpr (self : ExprRules) : Parser Expr := do
  let start ← position
  keyword "yield"
  if ← acceptKeyword "from" then
    return .compound start .yield [← self .test]
  else if (← peek).any startsElement then
    return .compound start .yield [← testList self]
  else
    return .compound start .yield []

/-! ## Comprehensions -/

/-- Whether a comprehension clause comes next. -/
def seesComprehension : Parser Bool := do
  return (← sees (.keyword "for")) || (← sees (.keyword "async"))

/-- The clauses of a comprehension: at least one `for`, each with its
conditions. -/
def comprehension (self : ExprRules) : Parser (List Expr) := do
  let clauses ← collect do
    if ← seesComprehension then
      let _ ← acceptKeyword "async"
      keyword "for"
      let target ← targetList self
      keyword "in"
      let source ← self .disjunction
      let conditions ← collect do
        optionally (← acceptKeyword "if") (self .disjunction)
      return some (target :: source :: conditions)
    else
      return none
  require !clauses.isEmpty
  return clauses.flatten

/-! ## Calls and subscripts -/

/-- An argument of a call. -/
inductive Argument where
  | positional (value : Expr)
  | named (name : String) (value : Expr)
  | unpacked (value : Expr)

/-- One argument: `*value`, `**value`, `name=value`, or a value, which a
comprehension may follow. -/
def argument (self : ExprRules) : Parser Argument := do
  let start ← position
  if ← acceptSymbol "*" then
    return .positional (.starred start (← self .test))
  else if ← acceptSymbol "**" then
    return .unpacked (← self .test)
  else if (← peekSecond) = some (.symbol "=") then
    let parameter ← name
    symbol "="
    return .named parameter (← self .test)
  else
    let value ← namedTest self
    if ← seesComprehension then
      return .positional (.compound start .generator (value :: (← comprehension self)))
    else
      return .positional value

/-- Whether an argument can start with this token. -/
def startsArgument (token : Token) : Bool :=
  startsElement token || token = .symbol "**"

/-- The positional values and the keywords of a call.  A positional value may
not follow a keyword unless it is starred, a starred one may not follow an
unpacked mapping, and no name is given twice. -/
def sortArguments : List Argument → List Expr → List (Option String × Expr) →
    Option (List Expr × List (Option String × Expr))
  | [], values, keywords => some (values, keywords)
  | .positional value :: rest, values, keywords =>
      if (keywords.isEmpty || value.isStarred) && keywords.all (·.1.isSome) then
        sortArguments rest (values ++ [value]) keywords
      else
        none
  | .named parameter value :: rest, values, keywords =>
      if keywords.any (·.1 = some parameter) then
        none
      else
        sortArguments rest values (keywords ++ [(some parameter, value)])
  | .unpacked value :: rest, values, keywords =>
      sortArguments rest values (keywords ++ [(none, value)])

/-- The arguments of a call, up to and including the closing bracket. -/
def callArguments (self : ExprRules) : Parser (List Expr × List (Option String × Expr)) := do
  if ← acceptSymbol ")" then
    return ([], [])
  else
    let (arguments, _) ← commaList startsArgument (argument self)
    symbol ")"
    match sortArguments arguments [] [] with
    | some sorted => return sorted
    | none => failure

/-- A bound of a slice, which may be missing. -/
def sliceBound (self : ExprRules) : Parser (List Expr) := do
  if (← peek).any startsExpr then return [← self .test] else return []

/-- One subscript: a slice or an element. -/
def subscript (self : ExprRules) : Parser Expr := do
  let start ← position
  let rest (lower : List Expr) : Parser Expr := do
    symbol ":"
    let upper ← sliceBound self
    let step ← if ← acceptSymbol ":" then sliceBound self else pure []
    return .compound start .slice (lower ++ upper ++ step)
  if ← sees (.symbol ":") then
    rest []
  else
    let (kind, value) ← element self
    if kind = .plain && (← sees (.symbol ":")) then rest [value] else return value

/-- Whether a subscript can start with this token. -/
def startsSubscript (token : Token) : Bool :=
  startsElement token || token = .symbol ":"

/-! ## Strings -/

/-- Whether a text is an expression that may stand in a replacement field. -/
def isEmbedded (self : ExprRules) (text : List Char) : Bool :=
  match SoftKeyword.expressionTokens? ('(' :: text ++ [')']) with
  | none => false
  | some lexemes =>
      match (testList self).apply lexemes with
      | none => false
      | some (_, rest) => rest.all (·.token = .newline)

/-- Whether a literal is in order: its escapes, and the fields of a formatted
one. -/
def isWellFormed (self : ExprRules) (literal : StringLiteral) : Bool :=
  if literal.isFormatted then
    match Interpolation.expressions? literal.isRaw literal.content with
    | none => false
    | some texts => texts.all (isEmbedded self)
  else
    literal.isPlain

/-- Adjacent string literals, all of them bytes or none. -/
def strings (self : ExprRules) : Parser Expr := do
  let start ← position
  let literals ← collect do
    match ← peek with
    | some (.string literal) =>
        let _ ← next
        return some literal
    | _ => return none
  require (literals.all (isWellFormed self))
  require (literals.all (·.isBytes) || literals.all (!·.isBytes))
  require !literals.isEmpty
  return .compound start .string []

/-! ## Displays -/

/-- What stands after an opening parenthesis that starts at `start`: nothing, a
`yield`, a generator, a tuple, or a single expression, which is then the
whole. -/
def parenthesized (self : ExprRules) (start : Nat) : Parser Expr := do
  if ← acceptSymbol ")" then
    return .compound start .tuple []
  else if ← sees (.keyword "yield") then
    let value ← yieldExpr self
    symbol ")"
    return value
  else
    let (kind, first) ← element self
    if kind ≠ .starred && (← seesComprehension) then
      let clauses ← comprehension self
      symbol ")"
      return .compound start .generator (first :: clauses)
    else
      let (rest, endsWithComma) ←
        if ← acceptSymbol "," then
          if (← peek).any startsElement then
            let (more, _) ← commaList startsElement (element self)
            pure (more.map Prod.snd, true)
          else
            pure ([], true)
        else
          pure ([], false)
      symbol ")"
      require (kind ≠ .starred || endsWithComma)
      return listAsExpr start (first :: rest) endsWithComma

/-- What stands after an opening square bracket: a list or a comprehension. -/
def bracketed (self : ExprRules) (start : Nat) : Parser Expr := do
  if ← acceptSymbol "]" then
    return .compound start .list []
  else
    let (elements, endsWithComma) ← commaList startsElement (element self)
    let values := elements.map Prod.snd
    if values.length = 1 && !endsWithComma && (← seesComprehension) then
      let clauses ← comprehension self
      symbol "]"
      return .compound start .comprehension (values ++ clauses)
    else
      symbol "]"
      return .compound start .list values

/-- An entry of a dictionary: `key: value`, or an unpacked mapping. -/
def dictionaryEntry (self : ExprRules) : Parser (List Expr) := do
  if ← acceptSymbol "**" then
    return [← self .arithmetic]
  else
    let key ← self .test
    symbol ":"
    return [key, ← self .test]

/-- The entries of a dictionary after the first one, and its closing brace. -/
def dictionaryRest (self : ExprRules) (start : Nat) (first : List Expr) : Parser Expr := do
  let rest ←
    if ← acceptSymbol "," then
      if (← peek).any startsArgument then
        let (entries, _) ← commaList startsArgument (dictionaryEntry self)
        pure entries.flatten
      else
        pure []
    else
      pure []
  symbol "\x7d"
  return .compound start .dictionary (first ++ rest)

/-- What stands after an opening brace: a dictionary, a set, or a comprehension
of one. -/
def braced (self : ExprRules) (start : Nat) : Parser Expr := do
  if ← acceptSymbol "\x7d" then
    return .compound start .dictionary []
  else if ← acceptSymbol "**" then
    dictionaryRest self start [← self .arithmetic]
  else
    let (kind, first) ← element self
    if kind = .plain && (← sees (.symbol ":")) then
      symbol ":"
      let value ← self .test
      if ← seesComprehension then
        let clauses ← comprehension self
        symbol "\x7d"
        return .compound start .comprehension (first :: value :: clauses)
      else
        dictionaryRest self start [first, value]
    else if kind ≠ .starred && (← seesComprehension) then
      let clauses ← comprehension self
      symbol "\x7d"
      return .compound start .comprehension (first :: clauses)
    else
      let rest ←
        if ← acceptSymbol "," then
          if (← peek).any startsElement then
            let (more, _) ← commaList startsElement (element self)
            pure (more.map Prod.snd)
          else
            pure []
        else
          pure []
      symbol "\x7d"
      return .compound start .set (first :: rest)

/-! ## Operands -/

/-- A name, a literal, or something in brackets. -/
def atom (self : ExprRules) : Parser Expr := do
  let start ← position
  match ← peek with
  | some (.name identifier) =>
      let _ ← next
      return .name start identifier
  | some .number =>
      let _ ← next
      return .compound start .constant []
  | some (.string _) => strings self
  | some (.keyword word) =>
      require (["None", "True", "False"].contains word)
      let _ ← next
      return .compound start .constant []
  | some (.symbol text) =>
      let _ ← next
      if text = "(" then
        parenthesized self start
      else if text = "[" then
        bracketed self start
      else if text = "\x7b" then
        braced self start
      else
        require (text = "...")
        return .compound start .constant []
  | _ => failure

/-- An atom with the calls, subscripts and members written after it.  All of
them start where the atom's first token starts. -/
def primary (self : ExprRules) : Parser Expr := do
  let start ← position
  let operand ← atom self
  grow (fun value => do
    if ← acceptSymbol "(" then
      let (arguments, keywords) ← callArguments self
      return some (.call start value arguments keywords)
    else if ← acceptSymbol "[" then
      let (subscripts, _) ← commaList startsSubscript (subscript self)
      symbol "]"
      return some (.compound start .subscript (value :: subscripts))
    else if ← acceptSymbol "." then
      return some (.member start value (← name))
    else
      return none) operand

/-- A primary, which `await` may precede and a power may follow. -/
def power (self : ExprRules) : Parser Expr := do
  let start ← position
  let base ←
    if ← acceptKeyword "await" then
      pure (.compound start .await [← primary self])
    else
      primary self
  if ← acceptSymbol "**" then
    return .compound start .binary [base, ← self .factor]
  else
    return base

/-- Whether a token is a sign. -/
def isSign (token : Token) : Bool :=
  token = .symbol "+" || token = .symbol "-" || token = .symbol "~"

/-- An operand with its sign. -/
def factor (self : ExprRules) : Parser Expr := do
  let start ← position
  if (← peek).any isSign then
    let _ ← next
    return .compound start .unary [← self .factor]
  else
    power self

/-! ## Operators -/

/-- Operands with operators between them, as one compound; a single operand is
itself.  `operator` reads an operator and tells whether there was one. -/
def chain (form : Form) (operand : Parser Expr) (operator : Parser Bool) : Parser Expr := do
  let start ← position
  let first ← operand
  let rest ← collect do
    optionally (← operator) operand
  return if rest.isEmpty then first else .compound start form (first :: rest)

/-- The symbols between two operands of an arithmetic chain. -/
def arithmeticSymbols : List String :=
  ["|", "^", "&", "<<", ">>", "+", "-", "*", "/", "//", "%", "@"]

/-- A chain of arithmetic operators. -/
def arithmetic (self : ExprRules) : Parser Expr :=
  chain .binary (factor self) do
    match ← peek with
    | some (.symbol text) =>
        if arithmeticSymbols.contains text then acceptSymbol text else pure false
    | _ => pure false

/-- The symbols that compare two operands. -/
def comparisonSymbols : List String :=
  ["==", "!=", "<", "<=", ">", ">="]

/-- A chain of comparisons. -/
def comparison (self : ExprRules) : Parser Expr :=
  chain .comparison (arithmetic self) do
    match ← peek with
    | some (.symbol text) =>
        if comparisonSymbols.contains text then acceptSymbol text else pure false
    | some (.keyword "in") => acceptKeyword "in"
    | some (.keyword "not") =>
        keyword "not"
        keyword "in"
        pure true
    | some (.keyword "is") =>
        keyword "is"
        let _ ← acceptKeyword "not"
        pure true
    | _ => pure false

/-- A `not`, or a comparison. -/
def inversion (self : ExprRules) : Parser Expr := do
  let start ← position
  if ← acceptKeyword "not" then
    return .compound start .unary [← self .inversion]
  else
    comparison self

/-- A chain of `and` and `or`. -/
def disjunction (self : ExprRules) : Parser Expr :=
  chain .boolean (inversion self) do
    if ← acceptKeyword "and" then pure true else acceptKeyword "or"

/-! ## Parameters -/

/-- A parameter of a function, or a mark between parameters. -/
inductive Parameter where
  | plain (name : String) (hasDefault : Bool)
  /-- The slash that ends the positional parameters. -/
  | slash
  /-- A star, with the name of the parameter that takes further values. -/
  | star (name : Option String)
  /-- Two stars, with the name of the parameter that takes further keywords. -/
  | doubleStar (name : Option String)
deriving Repr, DecidableEq

/-- The names that a list of parameters binds. -/
def parameterNames (parameters : List Parameter) : List String :=
  parameters.filterMap fun
    | .plain name _ => some name
    | .slash => none
    | .star name => name
    | .doubleStar name => name

/-- Whether a parameter is a plain one. -/
def Parameter.isPlain : Parameter → Bool
  | .plain _ _ => true
  | _ => false

/-- Whether only plain parameters and at the end perhaps two stars follow. -/
def endsParameters : List Parameter → Bool
  | [] => true
  | [.doubleStar _] => true
  | .plain _ _ :: rest => endsParameters rest
  | _ => false

/-- Whether the parameters stand in an allowed order.  `hasPlain`, `hasSlash` and
`hasDefault` tell what has come before. -/
def inOrder (hasPlain hasSlash hasDefault : Bool) : List Parameter → Bool
  | [] => true
  | .plain _ default :: rest =>
      (default || !hasDefault) && inOrder true hasSlash (hasDefault || default) rest
  | .slash :: rest => hasPlain && !hasSlash && inOrder hasPlain true hasDefault rest
  | .star (some _) :: rest => endsParameters rest
  | .star none :: rest => !rest.isEmpty && endsParameters rest
  | .doubleStar _ :: rest => rest.isEmpty

/-- Whether no string occurs twice. -/
def allDistinct : List String → Bool
  | [] => true
  | first :: rest => !rest.contains first && allDistinct rest

/-- Whether a parameter can start with this token. -/
def startsParameter : Token → Bool
  | .name _ => true
  | .symbol text => ["*", "**", "/"].contains text
  | _ => false

/-- A type after a colon, where types are allowed and one is given.  Behind a
star the type may be starred itself. -/
def parameterType (self : ExprRules) (isTyped mayBeStarred : Bool) : Parser Unit := do
  if isTyped then
    if ← acceptSymbol ":" then
      if mayBeStarred && (← sees (.symbol "*")) then
        let _ ← starred self
      else
        let _ ← self .test

/-- One parameter. -/
def parameter (self : ExprRules) (isTyped : Bool) : Parser Parameter := do
  let boundName (mayBeStarred : Bool) : Parser (Option String) := do
    match ← peek with
    | some (.name _) =>
        let identifier ← name
        parameterType self isTyped mayBeStarred
        return some identifier
    | _ => return none
  if ← acceptSymbol "*" then
    return .star (← boundName true)
  else if ← acceptSymbol "**" then
    return .doubleStar (← boundName false)
  else if ← acceptSymbol "/" then
    return .slash
  else
    let identifier ← name
    parameterType self isTyped false
    if ← acceptSymbol "=" then
      let _ ← self .test
      return .plain identifier true
    else
      return .plain identifier false

/-- The parameters of a function, which may be none. -/
def parameters (self : ExprRules) (isTyped : Bool) : Parser (List Parameter) := do
  if (← peek).any startsParameter then
    let (found, _) ← commaList startsParameter (parameter self isTyped)
    require (inOrder false false false found)
    require (allDistinct (parameterNames found))
    return found
  else
    return []

/-! ## Whole expressions -/

/-- A `lambda` after its keyword. -/
def lambdaRest (self : ExprRules) (start : Nat) : Parser Expr := do
  let _ ← parameters self false
  symbol ":"
  return .compound start .function [← self .test]

/-- A whole expression: a `lambda`, or a disjunction with perhaps a condition and
an alternative. -/
def test (self : ExprRules) : Parser Expr := do
  let start ← position
  if ← acceptKeyword "lambda" then
    lambdaRest self start
  else
    let value ← disjunction self
    if ← acceptKeyword "if" then
      let condition ← disjunction self
      keyword "else"
      return .compound start .conditional [value, condition, ← self .test]
    else
      return value

/-- One round of the rules over the next one. -/
def exprStep (self : ExprRules) : ExprRules
  | .test => test self
  | .disjunction => disjunction self
  | .inversion => inversion self
  | .arithmetic => arithmetic self
  | .factor => factor self

/-- The rules for expressions, nested at most as deep as the counter says. -/
def exprRules : Nat → ExprRules
  | 0, _ => failure
  | fuel + 1, rule => fun bound => exprStep (exprRules fuel) rule bound

end DecoratorLint.Source.Grammar
