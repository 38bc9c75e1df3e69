import DecoratorLint.Proofs.ExprStart
import DecoratorLint.Source.Module

/-!
# Where decorators start

The rules for patterns and statements keep what holds of the starts of tokens, and the
decorators in the statements that they give start as tokens do.  A program is read from the
tokens of its text, so a decorator that is a name, a member or a call starts at a character
of the text that can be seen.
-/

namespace DecoratorLint.Source

open Text (VisibleAt)

namespace Grammar

open Std.Do

set_option mvcgen.warning false

variable {holds : Nat → Prop}

/-! ## Patterns -/

@[spec]
theorem unsignedNumber_keeps : Keeps holds unsignedNumber := by
  mvcgen [unsignedNumber]

@[spec]
theorem numberPattern_keeps : Keeps holds numberPattern := by
  mvcgen [numberPattern]

@[spec]
theorem dottedName_keeps : Keeps holds dottedName := by
  mvcgen [dottedName]

/-- The rules that patterns ask for keep what holds of the starts of tokens. -/
structure PatternRulesKeep (holds : Nat → Prop) (rules : PatternRules) : Prop where
  pattern : Keeps holds rules.pattern
  strings : Keeps holds rules.strings

section Patterns

variable {rules : PatternRules} (asked : PatternRulesKeep holds rules)

include asked

@[spec]
theorem askedPattern_keeps : Keeps holds rules.pattern :=
  asked.pattern

@[spec]
theorem askedStrings_keeps : Keeps holds rules.strings :=
  asked.strings

@[spec]
theorem patternsUntil_keeps (closing : String) : Keeps holds (patternsUntil rules closing) := by
  mvcgen [patternsUntil]
  all_goals simp_all

@[spec]
theorem mappingKey_keeps : Keeps holds (mappingKey rules) := by
  mvcgen [mappingKey]

@[spec]
theorem mappingEntry_keeps : Keeps holds (mappingEntry rules) := by
  mvcgen [mappingEntry]

@[spec]
theorem mappingRest_keeps : Keeps holds (mappingRest rules) := by
  mvcgen [mappingRest]
  all_goals simp_all

@[spec]
theorem classArgument_keeps : Keeps holds (classArgument rules) := by
  mvcgen [classArgument]

@[spec]
theorem classArguments_keeps : Keeps holds (classArguments rules) := by
  mvcgen [classArguments]
  all_goals simp_all

@[spec]
theorem closedPattern_keeps : Keeps holds (closedPattern rules) := by
  mvcgen [closedPattern]
  all_goals simp_all

@[spec]
theorem patternStep_keeps : Keeps holds (patternStep rules) := by
  mvcgen [patternStep]
  all_goals simp_all

end Patterns

theorem pattern_keeps {checkStrings : Parser Unit} (strings : Keeps holds checkStrings)
    (fuel : Nat) : Keeps holds (pattern checkStrings fuel) := by
  induction fuel with
  | zero => exact failure_spec
  | succ fuel ih => exact patternStep_keeps ⟨ih, strings⟩

theorem casePatterns_keeps {checkStrings : Parser Unit} (strings : Keeps holds checkStrings)
    (fuel : Nat) : Keeps holds (casePatterns checkStrings fuel) := by
  have item := pattern_keeps strings fuel
  mvcgen [casePatterns, item]

/-! ## Decorators in statements -/

/-- The decorators in some statements start at offsets with a property. -/
def BodyStarts (holds : Nat → Prop) (body : List Stmt) : Prop :=
  ∀ decorator ∈ bodyDecorators body, decorator.StartsAt holds

/-- The decorators in a statement start at offsets with a property. -/
def StmtStarts (holds : Nat → Prop) (statement : Stmt) : Prop :=
  ∀ decorator ∈ statement.decorators, decorator.StartsAt holds

theorem bodyStarts_iff {body : List Stmt} :
    BodyStarts holds body ↔ ∀ statement ∈ body, StmtStarts holds statement := by
  rw [BodyStarts, bodyDecorators_eq_flatMap]
  exact List.forall_mem_flatMap

@[simp]
theorem bodyStarts_nil : BodyStarts holds [] :=
  fun _ member => absurd member List.not_mem_nil

@[simp]
theorem bodyStarts_cons {statement : Stmt} {rest : List Stmt} :
    BodyStarts holds (statement :: rest) ↔ StmtStarts holds statement ∧ BodyStarts holds rest := by
  rw [BodyStarts, bodyDecorators, List.forall_mem_append]
  rfl

@[simp]
theorem bodyStarts_flatten {bodies : List (List Stmt)} :
    BodyStarts holds bodies.flatten ↔ ∀ body ∈ bodies, BodyStarts holds body := by
  simp only [bodyStarts_iff]
  exact List.forall_mem_flatten

theorem forall_mem_bodiesDecorators {bodies : List (List Stmt)} :
    (∀ decorator ∈ bodiesDecorators bodies, decorator.StartsAt holds) ↔
      ∀ body ∈ bodies, BodyStarts holds body := by
  rw [bodiesDecorators_eq_flatMap]
  exact List.forall_mem_flatMap

@[simp]
theorem stmtStarts_simple : StmtStarts holds .simple :=
  bodyStarts_nil

@[simp]
theorem stmtStarts_definition {kind : DefinitionKind} {name : String} {own : List Expr}
    {body : List Stmt} :
    StmtStarts holds (.definition kind name own body) ↔
      (∀ decorator ∈ own, decorator.StartsAt holds) ∧ BodyStarts holds body := by
  rw [StmtStarts, Stmt.decorators, List.forall_mem_append]
  rfl

@[simp]
theorem stmtStarts_ifElse {body orelse : List Stmt} :
    StmtStarts holds (.ifElse body orelse) ↔ BodyStarts holds body ∧ BodyStarts holds orelse := by
  rw [StmtStarts, Stmt.decorators, List.forall_mem_append]
  rfl

@[simp]
theorem stmtStarts_whileElse {body orelse : List Stmt} :
    StmtStarts holds (.whileElse body orelse) ↔
      BodyStarts holds body ∧ BodyStarts holds orelse := by
  rw [StmtStarts, Stmt.decorators, List.forall_mem_append]
  rfl

@[simp]
theorem stmtStarts_forElse {isAsync : Bool} {body orelse : List Stmt} :
    StmtStarts holds (.forElse isAsync body orelse) ↔
      BodyStarts holds body ∧ BodyStarts holds orelse := by
  rw [StmtStarts, Stmt.decorators, List.forall_mem_append]
  rfl

@[simp]
theorem stmtStarts_withBlock {isAsync : Bool} {body : List Stmt} :
    StmtStarts holds (.withBlock isAsync body) ↔ BodyStarts holds body :=
  Iff.rfl

@[simp]
theorem stmtStarts_tryBlock {isGroup : Bool} {body orelse finalbody : List Stmt}
    {handlers : List (List Stmt)} :
    StmtStarts holds (.tryBlock isGroup body handlers orelse finalbody) ↔
      ((BodyStarts holds body ∧ ∀ handler ∈ handlers, BodyStarts holds handler) ∧
        BodyStarts holds orelse) ∧ BodyStarts holds finalbody := by
  rw [StmtStarts, Stmt.decorators, List.forall_mem_append, List.forall_mem_append,
    List.forall_mem_append, forall_mem_bodiesDecorators]
  rfl

@[simp]
theorem stmtStarts_matchBlock {cases : List (List Stmt)} :
    StmtStarts holds (.matchBlock cases) ↔ ∀ body ∈ cases, BodyStarts holds body :=
  forall_mem_bodiesDecorators

/-- The branches of an `if` nest in its alternative. -/
theorem bodyStarts_branches {others : List (List Stmt)} {last : List Stmt}
    (branches : ∀ branch ∈ others, BodyStarts holds branch) (atEnd : BodyStarts holds last) :
    BodyStarts holds (others.foldr (fun branch orelse => [.ifElse branch orelse]) last) := by
  induction others with
  | nil => exact atEnd
  | cons branch others ih => simp_all

/-! ## Simple statements and parts of others -/

@[spec]
theorem modulePath_keeps : Keeps holds modulePath := by
  mvcgen [modulePath]

@[spec]
theorem newName_keeps : Keeps holds newName := by
  mvcgen [newName]

@[spec]
theorem importRest_keeps : Keeps holds importRest := by
  mvcgen [importRest]

@[spec]
theorem importedName_keeps : Keeps holds importedName := by
  mvcgen [importedName]

@[spec]
theorem fromRest_keeps : Keeps holds fromRest := by
  mvcgen [fromRest]

section Parts

variable {self : ExprRules} (rules : RulesStart holds self)

include rules

@[spec]
theorem assignedValue_keeps : Keeps holds (assignedValue self) := by
  mvcgen [assignedValue]
  all_goals simp_all

@[spec]
theorem expressionStatement_keeps : Keeps holds (expressionStatement self) := by
  mvcgen [expressionStatement]
  all_goals simp_all

@[spec]
theorem typeParameter_keeps : Keeps holds (typeParameter self) := by
  mvcgen [typeParameter]
  all_goals simp_all

@[spec]
theorem typeParameters_keeps : Keeps holds (typeParameters self) := by
  mvcgen [typeParameters]
  all_goals simp_all

@[spec]
theorem simpleStatement_keeps : Keeps holds (simpleStatement self) := by
  mvcgen [simpleStatement]
  all_goals simp_all

@[spec]
theorem simpleLine_reads : Reads holds (simpleLine self) (BodyStarts holds) := by
  have collected := @collect_reads holds Stmt (StmtStarts holds)
  mvcgen [simpleLine, seesLineEnd, -collect_keeps, collected]
  all_goals
    clear collected
    simp_all [bodyStarts_iff]

@[spec]
theorem withItem_keeps : Keeps holds (withItem self) := by
  mvcgen [withItem]
  all_goals simp_all

@[spec]
theorem groupedItems_keeps : Keeps holds (groupedItems self) := by
  mvcgen [groupedItems]
  all_goals simp_all

@[spec]
theorem openItems_keeps : Keeps holds (openItems self) := by
  mvcgen [openItems]
  all_goals simp_all

theorem decoratorLines_reads : Reads holds (decoratorLines self)
    fun decorators => ∀ decorator ∈ decorators, decorator.StartsAt holds := by
  have collected := @collect_reads holds Expr (Expr.StartsAt holds)
  mvcgen [decoratorLines, -collect_keeps, collected]
  all_goals
    clear collected
    simp_all

end Parts

/-! ## Statements with blocks -/

/-- The rules that statements ask for read expressions and blocks that start as their tokens
do. -/
structure StmtRulesStart (holds : Nat → Prop) (rules : StmtRules) : Prop where
  expr : RulesStart holds rules.expr
  block : Reads holds rules.block (BodyStarts holds)
  casePatterns : Keeps holds rules.casePatterns

section Blocks

variable {rules : StmtRules} (asked : StmtRulesStart holds rules)

include asked

@[spec]
theorem colonBlock_reads : Reads holds (colonBlock rules) (BodyStarts holds) := by
  have block := asked.block
  mvcgen [colonBlock, block]

@[spec]
theorem elseBlock_reads : Reads holds (elseBlock rules) (BodyStarts holds) := by
  mvcgen [elseBlock]
  all_goals simp_all

@[spec]
theorem ifRest_reads : Reads holds (ifRest rules) (StmtStarts holds) := by
  have expr := asked.expr
  have collected := @collect_reads holds (List Stmt) (BodyStarts holds)
  mvcgen [ifRest, -collect_keeps, collected]
  all_goals
    clear collected
    simp_all [bodyStarts_branches]

@[spec]
theorem whileRest_reads : Reads holds (whileRest rules) (StmtStarts holds) := by
  have expr := asked.expr
  mvcgen [whileRest]
  all_goals simp_all

@[spec]
theorem forRest_reads (isAsync : Bool) :
    Reads holds (forRest rules isAsync) (StmtStarts holds) := by
  have expr := asked.expr
  mvcgen [forRest]
  all_goals simp_all

@[spec]
theorem withRest_reads (isAsync : Bool) :
    Reads holds (withRest rules isAsync) (StmtStarts holds) := by
  have block := asked.block
  have items := orElse_spec (groupedItems_keeps asked.expr) (openItems_keeps asked.expr)
  mvcgen [withRest, block, items]

@[spec]
theorem handler_reads : Reads holds (handler rules)
    fun result => ∀ found ∈ result, BodyStarts holds found.2 := by
  have expr := asked.expr
  mvcgen [handler]
  all_goals simp_all

@[spec]
theorem tryRest_reads : Reads holds (tryRest rules) (StmtStarts holds) := by
  have handlers := collect_reads (handler_reads asked)
  mvcgen [tryRest, -collect_keeps, handlers]
  all_goals
    clear handlers
    simp_all [or_imp]

theorem matchCase_reads : Reads holds (matchCase rules)
    fun result => ∀ body ∈ result, BodyStarts holds body := by
  have expr := asked.expr
  have patterns := asked.casePatterns
  mvcgen [matchCase, patterns]
  all_goals simp_all

@[spec]
theorem matchRest_reads : Reads holds (matchRest rules) (StmtStarts holds) := by
  have expr := asked.expr
  have cases := collect_reads (matchCase_reads asked)
  mvcgen [matchRest, -collect_keeps, cases]
  all_goals simp_all

/-! ## Definitions -/

@[spec]
theorem functionRest_reads (isAsync : Bool) {decorators : List Expr}
    (own : ∀ decorator ∈ decorators, decorator.StartsAt holds) :
    Reads holds (functionRest rules isAsync decorators) (StmtStarts holds) := by
  have expr := asked.expr
  mvcgen [functionRest]
  all_goals simp_all

@[spec]
theorem classRest_reads {decorators : List Expr}
    (own : ∀ decorator ∈ decorators, decorator.StartsAt holds) :
    Reads holds (classRest rules decorators) (StmtStarts holds) := by
  have expr := asked.expr
  mvcgen [classRest]
  all_goals simp_all

@[spec]
theorem decorated_reads : Reads holds (decorated rules) (StmtStarts holds) := by
  have lines := decoratorLines_reads asked.expr
  mvcgen [decorated, lines]
  all_goals simp_all

@[spec]
theorem asyncStatement_reads : Reads holds (asyncStatement rules) (StmtStarts holds) := by
  mvcgen [asyncStatement]
  all_goals simp_all

/-! ## Programs -/

@[spec]
theorem statement_reads : Reads holds (statement rules) (BodyStarts holds) := by
  have expr := asked.expr
  mvcgen [statement]
  all_goals simp_all

theorem blockStep_reads : Reads holds (blockStep rules) (BodyStarts holds) := by
  have expr := asked.expr
  have collected := @collect_reads holds (List Stmt) (BodyStarts holds)
  mvcgen [blockStep, -collect_keeps, collected]
  all_goals
    clear collected
    simp_all

theorem program_reads : Reads holds (program rules) (BodyStarts holds) := by
  have collected := @collect_reads holds (List Stmt) (BodyStarts holds)
  mvcgen [program, -collect_keeps, collected]
  all_goals
    clear collected
    simp_all

end Blocks

/-- The rules for statements over a rule for blocks whose decorators start so. -/
theorem stmtRulesStart (length : Nat) {block : Parser (List Stmt)}
    (reads : Reads holds block (BodyStarts holds)) :
    StmtRulesStart holds (stmtRules length block) := by
  constructor
  · exact rulesStart_exprRules (length + 1)
  · exact reads
  · refine casePatterns_keeps ?_ (length + 1)
    mvcgen
    simp_all

theorem block_reads (length fuel : Nat) : Reads holds (block length fuel) (BodyStarts holds) := by
  induction fuel with
  | zero => exact failure_spec
  | succ fuel ih => exact blockStep_reads (stmtRulesStart length ih)

end Grammar

/-- A decorator of a program that is a name, a member or a call starts at a character of the
source text that can be seen. -/
theorem startsAt_of_parse? {source : List Char} {program : List Stmt} {decorator : Expr}
    (parsed : parse? source = some program) (member : decorator ∈ bodyDecorators program) :
    decorator.StartsAt (VisibleAt source) := by
  simp only [parse?, Option.bind_eq_bind] at parsed
  obtain ⟨tokens, lexed, parsed⟩ := Option.bind_eq_some_iff.mp parsed
  obtain ⟨⟨statements, rest⟩, ran, parsed⟩ := Option.bind_eq_some_iff.mp parsed
  split at parsed
  · obtain rfl := Option.some.inj parsed
    have rules := Grammar.stmtRulesStart source.length
      (@Grammar.block_reads (VisibleAt source) source.length (tokens.length + 1))
    have reads := Grammar.triple_iff.mp (Grammar.program_reads rules)
    exact (reads _ tokens (SoftKeyword.programTokens?_start lexed) statements rest ran).2 decorator
      member
  · contradiction

end DecoratorLint.Source
