import DecoratorLint.Files.FileSystem
import DecoratorLint.Text.Blank
import DecoratorLint.Text.Lines

/-!
# Lines to show

The lines at which violations stand are shown with them.  A file is read when
the first of its lines is asked for, and never again: later answers come from
what was read then, even if that was nothing.
-/

namespace DecoratorLint

/-- What has been read so far: for each path, in the order of first requests, the
trimmed lines of the file or why there are none. -/
structure SourceLines where
  files : List (String × Except ReadError (List String)) := []

namespace SourceLines

/-- The trimmed lines of a text. -/
def trimmedLines (text : String) : List String :=
  (Text.lines text.toList).map fun line => String.ofList (Text.trim line)

/-- The trimmed lines of a file as it is now. -/
def load (system : FileSystem) (path : String) : Except ReadError (List String) :=
  (system.read path).map trimmedLines

/-- A line out of what was read; an empty text if there is no such line.  Line
zero counts as the first. -/
def lineOf (file : Except ReadError (List String)) (line : Nat) : String :=
  match file with
  | .ok lines => (lines[line - 1]?).getD ""
  | .error _ => ""

/-- The trimmed text of a line, and what has been read after that. -/
def get (cache : SourceLines) (system : FileSystem) (path : String) (line : Nat) :
    String × SourceLines :=
  match cache.files.lookup path with
  | some file => (lineOf file line, cache)
  | none =>
      let file := load system path
      (lineOf file line, { files := cache.files ++ [(path, file)] })

/-- An answer is taken from what was read before, or else from the file as it is now. -/
theorem fst_get (cache : SourceLines) (system : FileSystem) (path : String) (line : Nat) :
    (cache.get system path line).1 =
      lineOf ((cache.files.lookup path).getD (load system path)) line := by
  rw [get]
  cases cache.files.lookup path <;> rfl

/-- What the answer was taken from is known afterwards, and nothing else changes. -/
theorem lookup_get (cache : SourceLines) (system : FileSystem) (path other : String)
    (line : Nat) :
    (cache.get system path line).2.files.lookup other =
      if other = path then some ((cache.files.lookup path).getD (load system path))
      else cache.files.lookup other := by
  rw [get]
  by_cases same : other = path
  · subst same
    rw [if_pos rfl]
    cases known : cache.files.lookup other with
    | some file => exact known
    | none => simp [List.lookup_append, known]
  · rw [if_neg same]
    cases cache.files.lookup path with
    | some file => rfl
    | none => simp [List.lookup_append, List.lookup_cons, beq_eq_false_iff_ne.mpr same]

/-- The files that could not be read, in the order of first requests. -/
def failures (cache : SourceLines) : List (String × ReadError) :=
  cache.files.filterMap fun (path, file) =>
    match file with
    | .ok _ => none
    | .error cause => some (path, cause)

/-- The lines at which things stand, asked for one after the other. -/
def getAll {α : Type} (pathOf : α → String) (lineNumber : α → Nat) (system : FileSystem) :
    SourceLines → List α → List (α × String) × SourceLines
  | cache, [] => ([], cache)
  | cache, first :: rest =>
      let (text, read) := cache.get system (pathOf first) (lineNumber first)
      let (more, last) := getAll pathOf lineNumber system read rest
      ((first, text) :: more, last)

/-- Asking for lines keeps the things they stand at, in order. -/
theorem map_fst_getAll {α : Type} (pathOf : α → String) (lineNumber : α → Nat)
    (system : FileSystem) (cache : SourceLines) (items : List α) :
    (getAll pathOf lineNumber system cache items).1.map Prod.fst = items := by
  induction items generalizing cache with
  | nil => rfl
  | cons first rest ih =>
      simp only [getAll, List.map_cons]
      rw [ih]

end SourceLines

end DecoratorLint
