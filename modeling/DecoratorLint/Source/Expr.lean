/-!
# Expressions

The expressions of the source language, kept in the detail that decorators need:
names, member accesses, calls with their arguments, and starred values.
Every other expression is a compound of a stated form over its parts.

Every expression knows the byte offset at which it starts.
-/

namespace DecoratorLint.Source

/-- What kind of compound an expression is. -/
inductive Form where
  | constant
  | string
  | tuple
  | list
  | set
  | dictionary
  | comprehension
  | generator
  | subscript
  | slice
  | unary
  | binary
  | comparison
  | boolean
  | conditional
  | function
  | assignment
  | await
  | yield
deriving Repr, DecidableEq

/-- An expression.  A keyword argument without a name is an unpacked mapping. -/
inductive Expr where
  | name (start : Nat) (identifier : String)
  | member (start : Nat) (object : Expr) (field : String)
  | call (start : Nat) (function : Expr) (arguments : List Expr)
      (keywords : List (Option String × Expr))
  | starred (start : Nat) (value : Expr)
  | compound (start : Nat) (form : Form) (parts : List Expr)
deriving Repr

namespace Expr

/-- The byte offset at which an expression starts. -/
def start : Expr → Nat
  | .name start _ => start
  | .member start _ _ => start
  | .call start _ _ _ => start
  | .starred start _ => start
  | .compound start _ _ => start

/-- Whether an expression is a starred value. -/
def isStarred : Expr → Bool
  | .starred _ _ => true
  | _ => false

end Expr

end DecoratorLint.Source
