import DecoratorLint.Toml.Datetime
import DecoratorLint.Toml.Number

/-!
# Documents

Values, key lines and table headers, and how they make up the tables of a
document.  A table may be opened by a header once, may come about through the
headers of tables inside it, or may be made by joined keys; these ways do not mix
except that a header may still open a table that so far only held others.  Arrays
and tables written in line are closed.
-/

namespace DecoratorLint.Toml

/-! ## Tables under construction -/

/-- What a key of an unfinished table leads to. -/
inductive Item where
  | value (value : Toml)
  /-- A table; `isOpen` while no header of its own has been seen, and `isJoined`
  if joined keys made it. -/
  | table (isOpen isJoined : Bool) (entries : List (String × Item))
  /-- The tables of repeated headers, the newest last. -/
  | tables (items : List (List (String × Item)))
deriving Repr

/-- The entries of an unfinished table. -/
abbrev Items := List (String × Item)

/-- Give a key a new item; a key that is not there is added at the end. -/
def setItem (key : String) (item : Item) : Items → Items
  | [] => [(key, item)]
  | (other, old) :: rest =>
      if other = key then (key, item) :: rest else (other, old) :: setItem key item rest

/-- Change the table at the end of a path, making the tables on the way.  `change`
is told whether joined keys made that table.  Joined keys (`joining`) may not
lead into a table that has a header. -/
def changeAt (joining : Bool) (change : Bool → Items → Option Items) :
    List String → Bool → Items → Option Items
  | [], isJoined, items => change isJoined items
  | key :: rest, _, items =>
      match items.lookup key with
      | none => do
          let made ← changeAt joining change rest joining []
          some (setItem key (.table true joining made) items)
      | some (.value _) => none
      | some (.table isOpen isJoined entries) =>
          if joining && !isOpen then
            none
          else do
            let changed ← changeAt joining change rest isJoined entries
            some (setItem key (.table isOpen isJoined changed) items)
      | some (.tables tables) =>
          match tables.getLast? with
          | none => none
          | some newest => do
              let changed ← changeAt joining change rest false newest
              some (setItem key (.tables (tables.dropLast ++ [changed])) items)

/-- Add a value under joined keys, the last of which is given apart. -/
def addValue (path : List String) (key : String) (value : Toml) (items : Items) :
    Option Items :=
  changeAt true (fun isJoined entries =>
    if isJoined = path.isEmpty || (entries.lookup key).isSome then
      none
    else
      some (entries ++ [(key, .value value)])) path false items

/-- Open the table of a header. -/
def openTable (path : List String) (key : String) (items : Items) : Option Items :=
  changeAt false (fun _ entries =>
    match entries.lookup key with
    | none => some (entries ++ [(key, .table false false [])])
    | some (.table true false children) =>
        some (setItem key (.table false false children) entries)
    | some _ => none) path false items

/-- Open one more table of a repeated header. -/
def openNextTable (path : List String) (key : String) (items : Items) : Option Items :=
  changeAt false (fun _ entries =>
    match entries.lookup key with
    | none => some (entries ++ [(key, .tables [[]])])
    | some (.tables tables) => some (setItem key (.tables (tables ++ [[]])) entries)
    | some _ => none) path false items

mutual

/-- The value of an item. -/
def Item.finish : Item → Toml
  | .value value => value
  | .table _ _ entries => .table (finishItems entries)
  | .tables tables => .array (finishTables tables)

/-- The entries of a finished table. -/
def finishItems : List (String × Item) → List (String × Toml)
  | [] => []
  | (key, item) :: rest => (key, item.finish) :: finishItems rest

/-- The values of finished tables. -/
def finishTables : List (List (String × Item)) → List Toml
  | [] => []
  | entries :: rest => .table (finishItems entries) :: finishTables rest

end

/-! ## Values -/

/-- A key line: joined keys, an equals sign and a value. -/
def keyValue (value : Reader Toml) : Reader (List String × String × Toml) := do
  let keys ← dottedKey
  expect "="
  blanks
  let found ← value
  match keys.getLast? with
  | some last => return (keys.dropLast, last, found)
  | none => failure

/-- The items of an array after its opening bracket.  A comma may follow the last
item, and line ends and comments may stand anywhere between. -/
def arrayItems (value : Reader Toml) : Nat → Reader (List Toml)
  | 0 => failure
  | fuel + 1 => do
      gap
      if ← accept "]" then
        return []
      else
        let item ← value
        gap
        if ← accept "," then
          return item :: (← arrayItems value fuel)
        else
          expect "]"
          return [item]

/-- The key lines of a table written in line, after its opening brace.  They
stand on one line, and no comma follows the last. -/
def inlineEntries (value : Reader Toml) : Reader Toml := do
  blanks
  if ← accept "\x7d" then
    return .table []
  else
    let first ← keyValue value
    blanks
    let rest ← collect do
      if ← accept "," then
        let entry ← keyValue value
        blanks
        return some entry
      else
        return none
    expect "\x7d"
    let items := (first :: rest).foldlM (fun items (path, key, value) =>
      addValue path key value items) []
    match items with
    | some items => return .table (finishItems items)
    | none => failure

/-- Whether the text starts as a number or a point in time does. -/
def startsNumber (char : Char) : Bool :=
  char.isDigit || char = '+' || char = '-' || char = 'i' || char = 'n'

/-- A value.  The counter bounds how deep arrays and tables in line may be
nested. -/
def value : Nat → Reader Toml
  | 0 => failure
  | fuel + 1 => do
      match ← peek with
      | none => failure
      | some char =>
          if char = '"' || char = '\x27' then
            return .string (← anyString)
          else if ← accept "[" then
            demand (0 < fuel)
            let text ← get
            return .array (← arrayItems (value fuel) (text.length + 1))
          else if ← accept "\x7b" then
            demand (0 < fuel)
            inlineEntries (value fuel)
          else if ← accept "true" then
            return .boolean true
          else if ← accept "false" then
            return .boolean false
          else
            demand (startsNumber char)
            (do return .datetime (← pointInTime)) <|> number

/-! ## Lines -/

/-- The state of a document: its tables so far, and the header under which lines
now stand. -/
structure Draft where
  items : Items := []
  header : List String := []

/-- Add a key line under the current header. -/
def Draft.add (draft : Draft) (path : List String) (key : String) (value : Toml) :
    Option Draft := do
  let items ← changeAt false (fun _ entries => addValue path key value entries)
    draft.header false draft.items
  some { draft with items }

/-- One line of a document that has something on it: a header or a key line. -/
def contentLine (draft : Draft) : Reader Draft := do
  let header (closing : String) (opening : List String → String → Items → Option Items) :
      Reader Draft := do
    let keys ← dottedKey
    expect closing
    match keys.getLast? with
    | none => failure
    | some last =>
        match opening keys.dropLast last draft.items with
        | some items => return { items, header := keys }
        | none => failure
  if ← accept "[[" then
    header "]]" openNextTable
  else if ← accept "[" then
    header "]" openTable
  else
    let (path, key, found) ← keyValue (value depthLimit)
    match draft.add path key found with
    | some changed => return changed
    | none => failure

/-- The lines of a document.  The counter bounds their number. -/
def documentLines : Nat → Draft → Reader Draft
  | 0, _ => failure
  | fuel + 1, draft => do
      blanks
      match ← peek with
      | none => return draft
      | some char =>
          let changed ←
            if char = '#' || char = '\n' || char = '\r' then pure draft else contentLine draft
          lineEnd
          documentLines fuel changed

/-- The table that a document is, or nothing when the text is no document.  A
byte order mark at the start is skipped. -/
def parse? (text : List Char) : Option Toml := do
  let text := if text.head? = some '\uFEFF' then text.drop 1 else text
  let (draft, _) ← (documentLines (text.length + 1) {}).run text
  some (.table (finishItems draft.items))

end DecoratorLint.Toml
