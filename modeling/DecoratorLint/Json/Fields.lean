import DecoratorLint.Json.Value

/-!
# Records in JSON

A record is written as an object with a member for each field, or as an array
with the values of all fields in order.  In an object the members can come in any
order, and members of other names are ignored.
-/

namespace DecoratorLint.Json

/-- The values of the members with a name. -/
def valuesOf (members : List (JsonText × Json)) (name : String) : List Json :=
  (members.filter (·.1 = some name)).map (·.2)

/-- The value of the member with a name, if there is one.  A name that is given
twice is an error. -/
def fieldOf? (members : List (JsonText × Json)) (name : String) : Option (Option Json) :=
  match valuesOf members name with
  | [] => some none
  | [value] => some (some value)
  | _ => none

/-- The values of the fields of a record, in the order of their names; a field can
be missing in an object, but not in an array.  Names that stand for no string are
errors. -/
def fields? (names : List String) : Json → Option (List (Option Json))
  | .array items => if items.length = names.length then some (items.map some) else none
  | .object members =>
      if members.any (·.1.isNone) then none else names.mapM (fieldOf? members)
  | _ => none

end DecoratorLint.Json
