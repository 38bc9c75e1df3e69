import DecoratorLint.Source.Grammar.Pattern
import DecoratorLint.Source.Stmt

/-!
# The grammar of statements

The rules for statements and for whole programs.  A statement that holds other
statements asks for a block of them; the knot is tied at the end by a counter,
and every block comes after at least one token.

A line of simple statements gives one statement for each, so the rules give
lists of statements.
-/

namespace DecoratorLint.Source.Grammar

/-- What statements ask for: the rules for expressions, a block of statements,
and the patterns of a case. -/
structure StmtRules where
  expr : ExprRules
  block : Parser (List Stmt)
  casePatterns : Parser Unit

/-! ## Simple statements -/

/-- The symbols of assignments that combine. -/
def augmentedSymbols : List String :=
  ["+=", "-=", "*=", "/=", "//=", "%=", "**=", "@=", "|=", "^=", "&=", "<<=", ">>="]

/-- Whether a token combines and assigns. -/
def isAugmented : Token → Bool
  | .symbol text => augmentedSymbols.contains text
  | _ => false

/-- The right-hand side of an assignment: a `yield`, or expressions with
commas. -/
def assignedValue (self : ExprRules) : Parser Unit := do
  if ← sees (.keyword "yield") then
    let _ ← yieldExpr self
  else
    let _ ← testList self

/-- An expression statement: expressions, perhaps assigned to.  Any expression
may be a target.  Only a single expression may be given a type. -/
def expressionStatement (self : ExprRules) : Parser Unit := do
  let startsStarred ← sees (.symbol "*")
  let (elements, endsWithComma) ← commaList startsElement do
    if ← sees (.symbol "*") then starred self else self .test
  if ← sees (.symbol ":") then
    require (elements.length = 1 && !endsWithComma && !startsStarred)
    symbol ":"
    let _ ← self .test
    if ← acceptSymbol "=" then
      assignedValue self
  else if (← peek).any isAugmented then
    let _ ← next
    assignedValue self
  else
    let _ ← collect do
      optionally (← acceptSymbol "=") (assignedValue self)

/-- A module path: names with points between them. -/
def modulePath : Parser Unit := do
  let _ ← dottedName

/-- An optional new name after `as`. -/
def newName : Parser Unit := do
  if ← acceptKeyword "as" then
    let _ ← name

/-- An `import` after its keyword. -/
def importRest : Parser Unit := do
  let _ ← strictCommaList do
    modulePath
    newName

/-- An imported name, perhaps renamed. -/
def importedName : Parser Unit := do
  let _ ← name
  newName

/-- Whether a token is a name. -/
def isName : Token → Bool
  | .name _ => true
  | _ => false

/-- A `from` import after its keyword. -/
def fromRest : Parser Unit := do
  let points ← collect do
    if ← acceptSymbol "." then
      return some ()
    else
      optionally (← acceptSymbol "...") (pure ())
  if points.isEmpty || !(← sees (.keyword "import")) then
    modulePath
  keyword "import"
  if ← acceptSymbol "*" then
    return ()
  else if ← acceptSymbol "(" then
    let _ ← commaList isName importedName
    symbol ")"
  else
    let _ ← strictCommaList importedName

/-- A type parameter. -/
def typeParameter (self : ExprRules) : Parser Unit := do
  if ← acceptSymbol "*" then
    let _ ← name
  else if ← acceptSymbol "**" then
    let _ ← name
  else
    let _ ← name
    if ← acceptSymbol ":" then
      let _ ← self .test

/-- Whether a type parameter can start with this token. -/
def startsTypeParameter (token : Token) : Bool :=
  isName token || token = .symbol "*" || token = .symbol "**"

/-- Type parameters in square brackets, if there are any. -/
def typeParameters (self : ExprRules) : Parser Unit := do
  if ← acceptSymbol "[" then
    let _ ← commaList startsTypeParameter (typeParameter self)
    symbol "]"

/-- One simple statement. -/
def simpleStatement (self : ExprRules) : Parser Unit := do
  match ← peek with
  | some (.keyword word) =>
      if ["pass", "break", "continue"].contains word then
        keyword word
      else if word = "del" then
        keyword word
        let _ ← targetList self
      else if word = "return" then
        keyword word
        if (← peek).any startsElement then
          let _ ← testList self
      else if word = "yield" then
        let _ ← yieldExpr self
      else if word = "raise" then
        keyword word
        if (← peek).any startsExpr then
          let _ ← self .test
          if ← acceptKeyword "from" then
            let _ ← self .test
      else if word = "assert" then
        keyword word
        let _ ← self .test
        if ← acceptSymbol "," then
          let _ ← self .test
      else if word = "import" then
        keyword word
        importRest
      else if word = "from" then
        keyword word
        fromRest
      else if word = "global" || word = "nonlocal" then
        keyword word
        let _ ← strictCommaList name
      else if word = "type" then
        keyword word
        let _ ← name
        typeParameters self
        symbol "="
        let _ ← self .test
      else
        expressionStatement self
  | _ => expressionStatement self

/-- Whether nothing but a line end follows. -/
def seesLineEnd : Parser Bool :=
  sees .newline

/-- A line of simple statements with semicolons between them and perhaps one at
its end. -/
def simpleLine (self : ExprRules) : Parser (List Stmt) := do
  simpleStatement self
  let rest ← collect do
    if ← acceptSymbol ";" then
      if ← seesLineEnd then
        return none
      else
        simpleStatement self
        return some Stmt.simple
    else
      return none
  expect .newline
  return .simple :: rest

/-! ## Statements with blocks -/

/-- A colon and the block after it. -/
def colonBlock (rules : StmtRules) : Parser (List Stmt) := do
  symbol ":"
  rules.block

/-- An `else` with its block, or nothing. -/
def elseBlock (rules : StmtRules) : Parser (List Stmt) := do
  if ← acceptKeyword "else" then colonBlock rules else return []

/-- An `if` after its keyword.  An `elif` is an `if` in the alternative. -/
def ifRest (rules : StmtRules) : Parser Stmt := do
  let _ ← namedTest rules.expr
  let body ← colonBlock rules
  let others ← collect do
    if ← acceptKeyword "elif" then
      let _ ← namedTest rules.expr
      return some (← colonBlock rules)
    else
      return none
  let last ← elseBlock rules
  return .ifElse body (others.foldr (fun branch orelse => [.ifElse branch orelse]) last)

/-- A `while` after its keyword. -/
def whileRest (rules : StmtRules) : Parser Stmt := do
  let _ ← namedTest rules.expr
  let body ← colonBlock rules
  return .whileElse body (← elseBlock rules)

/-- A `for` after its keyword. -/
def forRest (rules : StmtRules) (isAsync : Bool) : Parser Stmt := do
  let _ ← targetList rules.expr
  keyword "in"
  let _ ← testList rules.expr
  let body ← colonBlock rules
  return .forElse isAsync body (← elseBlock rules)

/-- One item of a `with`: an expression, perhaps with a target. -/
def withItem (self : ExprRules) : Parser Unit := do
  let _ ← self .test
  if ← acceptKeyword "as" then
    let _ ← self .arithmetic

/-- The items of a `with` in parentheses, up to the colon. -/
def groupedItems (self : ExprRules) : Parser Unit := do
  symbol "("
  let _ ← commaList startsExpr (withItem self)
  symbol ")"
  symbol ":"

/-- The items of a `with` without parentheses around them, up to the colon. -/
def openItems (self : ExprRules) : Parser Unit := do
  let _ ← strictCommaList (withItem self)
  symbol ":"

/-- A `with` after its keyword.  Parentheses at the start may enclose all items
or belong to an expression. -/
def withRest (rules : StmtRules) (isAsync : Bool) : Parser Stmt := do
  groupedItems rules.expr <|> openItems rules.expr
  return .withBlock isAsync (← rules.block)

/-- One handler of a `try`; tells whether it is one for groups. -/
def handler (rules : StmtRules) : Parser (Option (Bool × List Stmt)) := do
  if ← acceptKeyword "except" then
    let isGroup ← acceptSymbol "*"
    if isGroup || !(← sees (.symbol ":")) then
      let _ ← rules.expr .test
      if ← acceptKeyword "as" then
        let _ ← name
    return some (isGroup, ← colonBlock rules)
  else
    return none

/-- A `try` after its keyword.  It has handlers, all of one kind, or a
`finally`; an `else` comes only after handlers. -/
def tryRest (rules : StmtRules) : Parser Stmt := do
  let body ← colonBlock rules
  let handlers ← collect (handler rules)
  let isGroup := handlers.any (·.1)
  require (handlers.all (·.1 = isGroup))
  let orelse ← if handlers.isEmpty then pure [] else elseBlock rules
  let hasFinally ← acceptKeyword "finally"
  let finalbody ← if hasFinally then colonBlock rules else pure []
  require (hasFinally || !handlers.isEmpty)
  return .tryBlock isGroup body (handlers.map Prod.snd) orelse finalbody

/-- A case of a `match`. -/
def matchCase (rules : StmtRules) : Parser (Option (List Stmt)) := do
  if ← acceptKeyword "case" then
    rules.casePatterns
    if ← acceptKeyword "if" then
      let _ ← namedTest rules.expr
    return some (← colonBlock rules)
  else
    return none

/-- A `match` after its keyword. -/
def matchRest (rules : StmtRules) : Parser Stmt := do
  let _ ← commaList startsElement (element rules.expr)
  symbol ":"
  expect .newline
  expect .indent
  let cases ← collect (matchCase rules)
  require !cases.isEmpty
  expect .dedent
  return .matchBlock cases

/-! ## Definitions -/

/-- A function after the keyword that starts it. -/
def functionRest (rules : StmtRules) (isAsync : Bool) (decorators : List Expr) :
    Parser Stmt := do
  let identifier ← name
  typeParameters rules.expr
  symbol "("
  let _ ← parameters rules.expr true
  symbol ")"
  if ← acceptSymbol "->" then
    let _ ← rules.expr .test
  let kind := if isAsync then DefinitionKind.asyncFunction else .function
  return .definition kind identifier decorators (← colonBlock rules)

/-- A class after the keyword that starts it. -/
def classRest (rules : StmtRules) (decorators : List Expr) : Parser Stmt := do
  let identifier ← name
  typeParameters rules.expr
  if ← acceptSymbol "(" then
    let _ ← callArguments rules.expr
  return .definition .classDefinition identifier decorators (← colonBlock rules)

/-- The decorators before a definition, each on a line of its own. -/
def decoratorLines (self : ExprRules) : Parser (List Expr) :=
  collect do
    if ← acceptSymbol "@" then
      let decorator ← namedTest self
      expect .newline
      return some decorator
    else
      return none

/-- A definition with the decorators before it. -/
def decorated (rules : StmtRules) : Parser Stmt := do
  let decorators ← decoratorLines rules.expr
  if ← acceptKeyword "class" then
    classRest rules decorators
  else
    let isAsync ← acceptKeyword "async"
    keyword "def"
    functionRest rules isAsync decorators

/-- A statement that starts with `async`. -/
def asyncStatement (rules : StmtRules) : Parser Stmt := do
  keyword "async"
  if ← acceptKeyword "for" then
    forRest rules true
  else if ← acceptKeyword "with" then
    withRest rules true
  else
    keyword "def"
    functionRest rules true []

/-! ## Statements and programs -/

/-- A statement with blocks, or a line of simple statements. -/
def statement (rules : StmtRules) : Parser (List Stmt) := do
  match ← peek with
  | some (.keyword word) =>
      if word = "if" then
        keyword word
        return [← ifRest rules]
      else if word = "while" then
        keyword word
        return [← whileRest rules]
      else if word = "for" then
        keyword word
        return [← forRest rules false]
      else if word = "with" then
        keyword word
        return [← withRest rules false]
      else if word = "try" then
        keyword word
        return [← tryRest rules]
      else if word = "match" then
        keyword word
        return [← matchRest rules]
      else if word = "async" then
        return [← asyncStatement rules]
      else if word = "def" || word = "class" then
        return [← decorated rules]
      else
        simpleLine rules.expr
  | some (.symbol "@") => return [← decorated rules]
  | _ => simpleLine rules.expr

/-- A block: simple statements on the same line, or indented statements on the
lines that follow. -/
def blockStep (rules : StmtRules) : Parser (List Stmt) := do
  if ← accept .newline then
    expect .indent
    let statements ← collect do
      if ← accept .dedent then return none else return some (← statement rules)
    require !statements.isEmpty
    return statements.flatten
  else
    simpleLine rules.expr

/-- The rules for statements in a text of the given length, over a rule for
blocks. -/
def stmtRules (length : Nat) (block : Parser (List Stmt)) : StmtRules :=
  let expr := exprRules (length + 1)
  { expr
    block
    casePatterns := casePatterns (do let _ ← strings expr) (length + 1) }

/-- A block in a text of the given length, with blocks nested in it at most as
deep as the counter says. -/
def block (length : Nat) : Nat → Parser (List Stmt)
  | 0 => failure
  | fuel + 1 => fun bound => blockStep (stmtRules length (block length fuel)) bound

/-- A whole program: statements, and line ends that stand alone. -/
def program (rules : StmtRules) : Parser (List Stmt) := do
  let statements ← collect do
    if (← get).isEmpty then
      return none
    else if ← accept .newline then
      return some []
    else
      return some (← statement rules)
  return statements.flatten

end DecoratorLint.Source.Grammar
