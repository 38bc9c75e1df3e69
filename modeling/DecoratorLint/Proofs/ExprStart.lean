import DecoratorLint.Proofs.TokenReading
import DecoratorLint.Source.Grammar.Expression

/-!
# Where expressions start

A name starts with its token, and a member or a call starts with the first token of what it
is written after.  So what holds of the starts of all tokens holds of the start of every
name, member and call that the grammar reads from them.

Each rule of the grammar has one triple, under the assumption that the rules which it asks
for read expressions that start so; the counter that ties the rules together carries the
induction.
-/

namespace DecoratorLint.Source

/-- An expression that can name a decorator starts at an offset with a property.  Nothing is
asked of the other expressions. -/
def Expr.StartsAt (holds : Nat → Prop) : Expr → Prop
  | .name start _ => holds start
  | .member start _ _ => holds start
  | .call start _ _ _ => holds start
  | .starred _ _ => True
  | .compound _ _ _ => True

namespace Grammar

open Std.Do

set_option mvcgen.warning false

variable {holds : Nat → Prop}

@[simp]
theorem startsAt_starred (start : Nat) (value : Expr) :
    (Expr.starred start value).StartsAt holds :=
  trivial

@[simp]
theorem startsAt_compound (start : Nat) (form : Form) (parts : List Expr) :
    (Expr.compound start form parts).StartsAt holds :=
  trivial

/-- A list that is a single expression starts as this expression does. -/
theorem startsAt_listAsExpr {start : Nat} {elements : List Expr} {endsWithComma : Bool}
    (given : ∀ first ∈ elements.head?, first.StartsAt holds) :
    (listAsExpr start elements endsWithComma).StartsAt holds := by
  unfold listAsExpr
  split
  · exact given _ rfl
  · trivial

/-- The rules that are asked for read expressions that start as their tokens do. -/
def RulesStart (holds : Nat → Prop) (self : ExprRules) : Prop :=
  ∀ rule, Reads holds (self rule) (Expr.StartsAt holds)

variable {self : ExprRules}

@[spec]
theorem rule_reads (rules : RulesStart holds self) (rule : ExprRule) :
    Reads holds (self rule) (Expr.StartsAt holds) :=
  rules rule

@[spec]
theorem seesComprehension_keeps : Keeps holds seesComprehension := by
  mvcgen [seesComprehension]

@[spec]
theorem strings_reads : Reads holds (strings self) (Expr.StartsAt holds) := by
  mvcgen [strings]

/-- A chain without operators is its operand. -/
@[spec]
theorem chain_reads {form : Form} {operand : Parser Expr} {operator : Parser Bool}
    (reads : Reads holds operand (Expr.StartsAt holds)) (keeps : Keeps holds operator) :
    Reads holds (chain form operand operator) (Expr.StartsAt holds) := by
  mvcgen [chain, reads, keeps]
  all_goals simp_all
  split <;> simp_all

/-! ## The rules

What is left of a triple once the triples of all parts are put together are conjunctions of
facts at hand; `simp_all` takes them apart. -/

section Rules

variable (rules : RulesStart holds self)

include rules

@[spec]
theorem starred_reads : Reads holds (starred self) (Expr.StartsAt holds) := by
  mvcgen [starred]
  simp_all

@[spec]
theorem namedTest_reads : Reads holds (namedTest self) (Expr.StartsAt holds) := by
  mvcgen [namedTest]
  simp_all

@[spec]
theorem element_reads : Reads holds (element self) fun found => found.2.StartsAt holds := by
  mvcgen [element]

@[spec]
theorem testList_reads : Reads holds (testList self) (Expr.StartsAt holds) := by
  have listed := @commaList_reads holds Expr (Expr.StartsAt holds)
  mvcgen [testList, -commaList_keeps, listed]
  all_goals simp_all [startsAt_listAsExpr]

@[spec]
theorem targetList_keeps : Keeps holds (targetList self) := by
  mvcgen [targetList]
  all_goals simp_all

@[spec]
theorem yieldExpr_reads : Reads holds (yieldExpr self) (Expr.StartsAt holds) := by
  mvcgen [yieldExpr]
  all_goals simp_all

@[spec]
theorem comprehension_keeps : Keeps holds (comprehension self) := by
  mvcgen [comprehension]
  all_goals simp_all

/-! ### Calls, subscripts and displays -/

@[spec]
theorem argument_keeps : Keeps holds (argument self) := by
  mvcgen [argument]
  all_goals simp_all

@[spec]
theorem callArguments_keeps : Keeps holds (callArguments self) := by
  mvcgen [callArguments]
  exact fun _ _ _ => rules

@[spec]
theorem sliceBound_keeps : Keeps holds (sliceBound self) := by
  mvcgen [sliceBound]
  all_goals simp_all

@[spec]
theorem subscript_keeps : Keeps holds (subscript self) := by
  mvcgen [subscript]
  all_goals simp_all

@[spec]
theorem parenthesized_reads (start : Nat) :
    Reads holds (parenthesized self start) (Expr.StartsAt holds) := by
  mvcgen [parenthesized]
  all_goals simp_all
  all_goals exact startsAt_listAsExpr (by simp_all)

@[spec]
theorem bracketed_reads (start : Nat) :
    Reads holds (bracketed self start) (Expr.StartsAt holds) := by
  mvcgen [bracketed]
  all_goals simp_all

@[spec]
theorem dictionaryEntry_keeps : Keeps holds (dictionaryEntry self) := by
  mvcgen [dictionaryEntry]
  all_goals simp_all

@[spec]
theorem dictionaryRest_reads (start : Nat) (first : List Expr) :
    Reads holds (dictionaryRest self start first) (Expr.StartsAt holds) := by
  mvcgen [dictionaryRest]
  all_goals simp_all

@[spec]
theorem braced_reads (start : Nat) :
    Reads holds (braced self start) (Expr.StartsAt holds) := by
  mvcgen [braced]
  all_goals simp_all

/-! ### Operands -/

/-- An atom starts with a token that is no mark of the layout, so the property holds where
the tokens start. -/
theorem atom_reads (tokens : List Lexeme) :
    ⦃fun _ given => ⌜given = tokens ∧ TokensStart holds given⌝⦄ atom self
    ⦃⇓? result => fun _ left =>
      ⌜TokensStart holds left ∧ result.StartsAt holds ∧ holds (startOf tokens)⌝⦄ := by
  mvcgen [atom]
  all_goals
    obtain ⟨rfl, start⟩ := ‹_ ∧ TokensStart holds _›
    have here := holds_startOf start ‹_› rfl
    simp_all [Expr.StartsAt]

/-- Calls, subscripts and members start where their operand starts. -/
@[spec]
theorem primary_reads : Reads holds (primary self) (Expr.StartsAt holds) := by
  have operand := @atom_reads holds self rules
  have grown := @grow_reads holds Expr (Expr.StartsAt holds)
  mvcgen [primary, operand, grown]
  all_goals
    clear operand grown
    simp_all [Expr.StartsAt]

@[spec]
theorem power_reads : Reads holds (power self) (Expr.StartsAt holds) := by
  mvcgen [power]
  all_goals simp_all

@[spec]
theorem factor_reads : Reads holds (factor self) (Expr.StartsAt holds) := by
  mvcgen [factor]
  all_goals simp_all

/-! ### Operators -/

@[spec]
theorem arithmetic_reads : Reads holds (arithmetic self) (Expr.StartsAt holds) := by
  mvcgen [arithmetic]
  exact fun _ _ _ => rules

@[spec]
theorem comparison_reads : Reads holds (comparison self) (Expr.StartsAt holds) := by
  mvcgen [comparison]
  exact fun _ _ _ => rules

@[spec]
theorem inversion_reads : Reads holds (inversion self) (Expr.StartsAt holds) := by
  mvcgen [inversion]
  all_goals simp_all

@[spec]
theorem disjunction_reads : Reads holds (disjunction self) (Expr.StartsAt holds) := by
  mvcgen [disjunction]
  exact fun _ _ _ => rules

/-! ### Parameters and whole expressions -/

@[spec]
theorem parameterType_keeps (isTyped mayBeStarred : Bool) :
    Keeps holds (parameterType self isTyped mayBeStarred) := by
  mvcgen [parameterType]
  all_goals simp_all

@[spec]
theorem parameter_keeps (isTyped : Bool) : Keeps holds (parameter self isTyped) := by
  mvcgen [parameter]
  all_goals simp_all

@[spec]
theorem parameters_keeps (isTyped : Bool) : Keeps holds (parameters self isTyped) := by
  mvcgen [parameters]
  exact fun _ _ _ => rules

@[spec]
theorem lambdaRest_reads (start : Nat) :
    Reads holds (lambdaRest self start) (Expr.StartsAt holds) := by
  mvcgen [lambdaRest]
  all_goals simp_all

@[spec]
theorem test_reads : Reads holds (test self) (Expr.StartsAt holds) := by
  mvcgen [test]
  all_goals simp_all

/-- One round of the rules over rules that start so. -/
theorem rulesStart_exprStep : RulesStart holds (exprStep self) := by
  intro rule
  cases rule with
  | test => exact test_reads rules
  | disjunction => exact disjunction_reads rules
  | inversion => exact inversion_reads rules
  | arithmetic => exact arithmetic_reads rules
  | factor => exact factor_reads rules

end Rules

/-- Every name, member and call that the grammar reads starts as a token does. -/
theorem rulesStart_exprRules (fuel : Nat) : RulesStart holds (exprRules fuel) := by
  induction fuel with
  | zero => exact fun rule => failure_spec
  | succ fuel ih => exact rulesStart_exprStep ih

end Grammar

end DecoratorLint.Source
