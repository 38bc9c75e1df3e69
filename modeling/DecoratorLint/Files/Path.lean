import DecoratorLint.Text.Pieces

/-!
# Paths

Paths are texts with slashes.  The functions here look at the text only: they
give the parts of a path, the path one level up, and a path below another one.
Empty parts and points in the middle count for nothing, but they stay in the
text of the paths that are derived from it.
-/

namespace DecoratorLint.Path

/-- The texts between the slashes of a path. -/
def segments (path : String) : List String :=
  Text.splitAt '/' path

/-- Whether a path starts at the root. -/
def isAbsolute (path : String) : Bool :=
  path.toList.head? = some '/'

/-- Whether a segment counts as a part of the path.  A point counts at the start
of a relative path only. -/
def counts (index : Nat) (segment : String) : Bool :=
  segment ≠ "" && (segment ≠ "." || index = 0)

/-- The parts of a path, each with the index of its segment. -/
def parts (path : String) : List (Nat × String) :=
  let rec number (index : Nat) : List String → List (Nat × String)
    | [] => []
    | segment :: rest =>
        if counts index segment then
          (index, segment) :: number (index + 1) rest
        else
          number (index + 1) rest
  number 0 (segments path)

/-- The path one level up.  Above the last part of a relative path is the empty
path, and above the root and the empty path there is nothing. -/
def parent? (path : String) : Option String :=
  match (parts path).reverse with
  | [] => none
  | [_] => some (if isAbsolute path then "/" else "")
  | _ :: (index, _) :: _ => some (Text.joinWith "/" ((segments path).take (index + 1)))

/-- A path below a path.  An absolute path stands for itself. -/
def join (base path : String) : String :=
  if isAbsolute path || base = "" then
    path
  else if base.toList.getLast? = some '/' then
    base ++ path
  else
    base ++ "/" ++ path

/-- The absolute path with the given names. -/
def ofNames (names : List String) : String :=
  "/" ++ Text.joinWith "/" names

/-- Whether the name of a file ends with a point and the given extension, and
something stands before that point. -/
def hasExtension (extension name : String) : Bool :=
  let pieces := Text.splitAt '.' name
  pieces.getLast? = some extension && 2 ≤ pieces.length && pieces.dropLast ≠ [""]

end DecoratorLint.Path
