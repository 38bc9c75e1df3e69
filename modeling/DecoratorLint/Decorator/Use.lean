import DecoratorLint.Decorator.Head
import DecoratorLint.Source.Expr

/-!
# Uses of decorators

What a decorator says at one place: how it is named, which arguments are written
there, and where it stands.  Only dotted names, bare or called, are uses; other
decorators name nothing that a rule could be about.
-/

namespace DecoratorLint

open Source (Expr)

/-- An argument written at a use. -/
inductive Argument where
  /-- A keyword argument, `name=value`. -/
  | pair (name : String)
  /-- A positional value. -/
  | value
  /-- An unpacked sequence or mapping. -/
  | unpacked
deriving Repr, DecidableEq

namespace Argument

/-- The name that a keyword argument gives. -/
def name? : Argument → Option String
  | .pair name => some name
  | .value => none
  | .unpacked => none

/-- The argument that a positional value is. -/
def ofValue (value : Expr) : Argument :=
  if value.isStarred then .unpacked else .value

/-- The argument that a keyword is; one without a name unpacks a mapping. -/
def ofKeyword : Option String × Expr → Argument
  | (some name, _) => .pair name
  | (none, _) => .unpacked

end Argument

/-- One use of a decorator.  Positional arguments come before keywords. -/
structure Use where
  head : Head
  arguments : List Argument
  /-- The byte offset at which the decorator expression starts. -/
  offset : Nat
deriving Repr, DecidableEq

namespace Use

/-- The unqualified name of the decorator. -/
def simpleName (use : Use) : String :=
  use.head.simpleName

/-- The names of the keyword arguments, in order and with repetitions. -/
def parameterNames (use : Use) : List String :=
  use.arguments.filterMap Argument.name?

/-- The segments of a dotted chain, from its root on. -/
def segments? : Expr → Option (List String)
  | .name _ identifier => some [identifier]
  | .member _ object field => (segments? object).map (· ++ [field])
  | _ => none

/-- The head that an expression names. -/
def head? (expr : Expr) : Option Head :=
  (segments? expr).bind Head.ofSegments?

/-- The use that a decorator expression is. -/
def ofDecorator? : Expr → Option Use
  | .call start function values keywords =>
      (head? function).map fun head =>
        { head
          arguments := values.map Argument.ofValue ++ keywords.map Argument.ofKeyword
          offset := start }
  | expr => (head? expr).map fun head => { head, arguments := [], offset := expr.start }

end Use

end DecoratorLint
