import DecoratorLint.Text.Pieces

/-!
# Names of decorators

A decorator is named by a single identifier or by a dotted path.  The last
segment of a path is kept apart from its qualifier, so that every head has a
simple name.
-/

namespace DecoratorLint

/-- How a decorator is named at a place where it is used. -/
inductive Head where
  /-- A single name. -/
  | simple (name : String)
  /-- A dotted path: its qualifier and its last segment. -/
  | qualified (qualifier : List String) (last : String)
deriving Repr, DecidableEq

namespace Head

/-- The name without its qualifier. -/
def simpleName : Head → String
  | .simple name => name
  | .qualified _ last => last

/-- The segments of a head, from its root on. -/
def segments : Head → List String
  | .simple name => [name]
  | .qualified qualifier last => qualifier ++ [last]

/-- The head with the given segments; there has to be one. -/
def ofSegments? (segments : List String) : Option Head :=
  match segments.dropLast, segments.getLast? with
  | _, none => none
  | [], some last => some (.simple last)
  | qualifier, some last => some (.qualified qualifier last)

/-- The head written as a path: segments with points between them, none of them
empty. -/
def ofPath? (path : String) : Option Head :=
  let segments := Text.splitAt '.' path
  if segments.any String.isEmpty then none else ofSegments? segments

/-- The written form of a head. -/
def path (head : Head) : String :=
  Text.joinWith "." head.segments

@[simp]
theorem segments_simple (name : String) : (Head.simple name).segments = [name] :=
  rfl

@[simp]
theorem segments_qualified (qualifier : List String) (last : String) :
    (Head.qualified qualifier last).segments = qualifier ++ [last] :=
  rfl

end Head

end DecoratorLint
