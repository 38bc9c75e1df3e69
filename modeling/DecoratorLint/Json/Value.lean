/-!
# JSON values

The values of a JSON text.  A number keeps the characters that write it, so that
no reader has to decide how much of it to round.  Objects keep their members in
order and with repetitions.
-/

namespace DecoratorLint

/-- A string of a JSON text.  An escape can name half of a surrogate pair; with a
half that has no partner the text stands for no string. -/
abbrev JsonText := Option String

/-- A JSON value. -/
inductive Json where
  | null
  | boolean (value : Bool)
  | number (numeral : String)
  | string (text : JsonText)
  | array (items : List Json)
  | object (members : List (JsonText × Json))
deriving Repr, Inhabited

namespace Json

/-- The value of a string. -/
def ofString (text : String) : Json :=
  .string (some text)

/-- An object with the given members. -/
def ofMembers (members : List (String × Json)) : Json :=
  .object (members.map fun (name, value) => (some name, value))

end Json

end DecoratorLint
