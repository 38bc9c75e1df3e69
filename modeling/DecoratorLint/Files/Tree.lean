/-!
# File trees

A file tree is a file or a folder of named trees.  The content of a file is text
when its bytes are UTF-8, and otherwise only bytes.
-/

namespace DecoratorLint

/-- The content of a file. -/
inductive Content where
  | text (value : String)
  /-- Bytes that are not the UTF-8 form of a text. -/
  | binary (bytes : List UInt8)
deriving Repr, DecidableEq

namespace Content

/-- The content with the given bytes. -/
def ofBytes (bytes : List UInt8) : Content :=
  match String.fromUTF8? (ByteArray.mk bytes.toArray) with
  | some value => .text value
  | none => .binary bytes

/-- The bytes of a content. -/
def bytes : Content → List UInt8
  | .text value => value.toUTF8.data.toList
  | .binary bytes => bytes

/-- The content with a text added at its end. -/
def append (content : Content) (more : String) : Content :=
  match content with
  | .text value => .text (value ++ more)
  | .binary bytes => .binary (bytes ++ more.toUTF8.data.toList)

end Content

/-- A file, or a folder of named trees. -/
inductive FileTree where
  | file (content : Content)
  | folder (entries : List (String × FileTree))
deriving Repr

namespace FileTree

/-- Whether a tree is a folder. -/
def isFolder : FileTree → Bool
  | .folder _ => true
  | .file _ => false

/-- The tree at the end of a list of names. -/
def at? : FileTree → List String → Option FileTree
  | tree, [] => some tree
  | .folder entries, name :: rest =>
      match entries.lookup name with
      | some child => child.at? rest
      | none => none
  | .file _, _ :: _ => none

@[simp]
theorem at?_nil (tree : FileTree) : tree.at? [] = some tree := by
  cases tree <;> rfl

@[simp]
theorem at?_file_cons (content : Content) (name : String) (rest : List String) :
    (FileTree.file content).at? (name :: rest) = none :=
  rfl

/-- Give an entry a new tree; an entry that is not there is added. -/
def setEntry (name : String) (tree : FileTree) : List (String × FileTree) → List (String × FileTree)
  | [] => [(name, tree)]
  | (other, old) :: rest =>
      if other = name then (name, tree) :: rest else (other, old) :: setEntry name tree rest

/-- Put a tree at the end of a list of names.  Missing folders on the way are
made; below a file nothing can be put. -/
def put (tree new : FileTree) : List String → FileTree
  | [] => new
  | name :: rest =>
      match tree with
      | .file content => .file content
      | .folder entries =>
          .folder (setEntry name (((entries.lookup name).getD (.folder [])).put new rest) entries)

/-- Take away the tree at the end of a list of names. -/
def erase (tree : FileTree) : List String → FileTree
  | [] => tree
  | name :: rest =>
      match tree with
      | .file content => .file content
      | .folder entries =>
          match entries.lookup name with
          | none => .folder entries
          | some child =>
              if rest.isEmpty then
                .folder (entries.filter (·.1 ≠ name))
              else
                .folder (setEntry name (child.erase rest) entries)

end FileTree

end DecoratorLint
