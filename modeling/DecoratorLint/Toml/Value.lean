/-!
# Values of a configuration document

The values that a TOML document can hold.  Floating-point numbers are only known
to be numbers, and points in time keep their canonical text.
-/

namespace DecoratorLint

/-- A value of a TOML document. -/
inductive Toml where
  | string (text : String)
  | integer (value : Int)
  | float
  | boolean (value : Bool)
  /-- A date, a time, or both, in canonical form. -/
  | datetime (text : String)
  | array (items : List Toml)
  | table (entries : List (String × Toml))
deriving Repr

namespace Toml

/-- The value under a key of a table. -/
def get? (key : String) : Toml → Option Toml
  | .table entries => entries.lookup key
  | _ => none

end Toml

end DecoratorLint
