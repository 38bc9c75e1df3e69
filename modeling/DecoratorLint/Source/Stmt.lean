import DecoratorLint.Source.Expr

/-!
# Statements

The statements of the source language, kept in the detail that finding
decorators needs: which statement lists a statement holds, in which order, and
the decorators of definitions.  Everything else about a statement is checked
while it is read and then forgotten.
-/

namespace DecoratorLint.Source

/-- What a definition defines. -/
inductive DefinitionKind where
  | function
  | asyncFunction
  | classDefinition
deriving Repr, DecidableEq

/-- A statement. -/
inductive Stmt where
  /-- A statement without statements inside. -/
  | simple
  /-- A function or class with its decorators, outermost first. -/
  | definition (kind : DefinitionKind) (name : String) (decorators : List Expr)
      (body : List Stmt)
  | ifElse (body orelse : List Stmt)
  | whileElse (body orelse : List Stmt)
  | forElse (isAsync : Bool) (body orelse : List Stmt)
  | withBlock (isAsync : Bool) (body : List Stmt)
  /-- A `try`, or a `try` with handlers of groups. -/
  | tryBlock (isGroup : Bool) (body : List Stmt) (handlers : List (List Stmt))
      (orelse finalbody : List Stmt)
  | matchBlock (cases : List (List Stmt))
deriving Repr

mutual

/-- The decorators in a statement, in the order of the text: those of a
definition before those in its body, and the statement lists of a statement one
after the other. -/
def Stmt.decorators : Stmt → List Expr
  | .simple => []
  | .definition _ _ own body => own ++ bodyDecorators body
  | .ifElse body orelse => bodyDecorators body ++ bodyDecorators orelse
  | .whileElse body orelse => bodyDecorators body ++ bodyDecorators orelse
  | .forElse _ body orelse => bodyDecorators body ++ bodyDecorators orelse
  | .withBlock _ body => bodyDecorators body
  | .tryBlock _ body handlers orelse finalbody =>
      bodyDecorators body ++ bodiesDecorators handlers ++ bodyDecorators orelse ++
        bodyDecorators finalbody
  | .matchBlock cases => bodiesDecorators cases

/-- The decorators in a list of statements. -/
def bodyDecorators : List Stmt → List Expr
  | [] => []
  | statement :: rest => statement.decorators ++ bodyDecorators rest

/-- The decorators in several lists of statements. -/
def bodiesDecorators : List (List Stmt) → List Expr
  | [] => []
  | body :: rest => bodyDecorators body ++ bodiesDecorators rest

end

theorem bodyDecorators_eq_flatMap (body : List Stmt) :
    bodyDecorators body = body.flatMap Stmt.decorators := by
  induction body with
  | nil => rfl
  | cons statement rest ih => simp [bodyDecorators, ih]

theorem bodiesDecorators_eq_flatMap (bodies : List (List Stmt)) :
    bodiesDecorators bodies = bodies.flatMap bodyDecorators := by
  induction bodies with
  | nil => rfl
  | cons body rest ih => simp [bodiesDecorators, ih]

end DecoratorLint.Source
