import DecoratorLint.Proofs.SpecText
import DecoratorLint.SourceLines

/-!
# Lines as they were when first asked for

While lines are asked for, the files can change in any way.  The first request for a path
decides all answers for it: they are lines of the file as it was then, or empty if it could
not be read then.  What happens to the file later does not show, and neither do requests
for other paths.
-/

namespace DecoratorLint.SourceLines

open Text (TrimsTo)

/-! ## What a line of a file is -/

/-- The answer that reading a file calls for.  Line zero counts as the first; the text of a
line is told without the blanks at its ends. -/
inductive Shows : Except ReadError String → Nat → String → Prop where
  | line {text : String} {number : Nat} {content : List Char} {answer : String}
      (present : (Text.lines text.toList)[max number 1 - 1]? = some content)
      (trims : TrimsTo content answer.toList) : Shows (.ok text) number answer
  | pastEnd {text : String} {number : Nat}
      (short : (Text.lines text.toList).length < max number 1) : Shows (.ok text) number ""
  | unreadable (cause : ReadError) (number : Nat) : Shows (.error cause) number ""

theorem shows_lineOf_load (system : FileSystem) (path : String) (number : Nat) :
    Shows (system.read path) number (lineOf (load system path) number) := by
  have index : number - 1 = max number 1 - 1 := by omega
  rw [load]
  cases system.read path with
  | error cause => exact .unreadable cause number
  | ok text =>
      simp only [Except.map, lineOf, trimmedLines, List.getElem?_map, index]
      cases present : (Text.lines text.toList)[max number 1 - 1]? with
      | none =>
          have beyond := List.getElem?_eq_none_iff.mp present
          exact .pastEnd (by omega)
      | some content =>
          refine .line present ?_
          simpa using Text.trimsTo_trim content

/-! ## Histories -/

/-- What happens while lines are shown: the files become other files, in any way whatever,
or a line is asked for. -/
inductive Event where
  | change (after : FileSystem)
  | ask (path : String) (number : Nat)

/-- The files as they are, and what has been read of them. -/
structure Session where
  files : FileSystem
  cache : SourceLines := {}

/-- What the files are when a path is asked for the first time, in a history that ends with
a request for this path. -/
def filesAtFirst (path : String) : FileSystem → List Event → FileSystem
  | files, [] => files
  | _, .change after :: later => filesAtFirst path after later
  | files, .ask other _ :: later => if other = path then files else filesAtFirst path files later

namespace Session

/-- The session after an event. -/
def step (session : Session) : Event → Session
  | .change after => { session with files := after }
  | .ask path number => { session with cache := (session.cache.get session.files path number).2 }

/-- The session after all events of a history. -/
def run (session : Session) (history : List Event) : Session :=
  history.foldl step session

/-- What the answer to a request would be. -/
def answer (session : Session) (path : String) (number : Nat) : String :=
  (session.cache.get session.files path number).1

/-- What is known of a path, or what the file would be read as. -/
def reading (session : Session) (path : String) (files : FileSystem) :
    Except ReadError (List String) :=
  (session.cache.files.lookup path).getD (load files path)

/-- What a path will be read as does not change with the events before the first request for
it, nor with this request. -/
theorem reading_step (session : Session) (event : Event) (later : List Event) (path : String) :
    (session.step event).reading path (filesAtFirst path (session.step event).files later) =
      session.reading path (filesAtFirst path session.files (event :: later)) := by
  cases event with
  | change after => rfl
  | ask other number =>
      simp only [reading, step, lookup_get, filesAtFirst]
      -- A request for this path makes known what it was answered from.
      by_cases same : other = path
      · subst same
        rw [if_pos rfl, if_pos rfl, Option.getD_some]
      · rw [if_neg (Ne.symm same), if_neg same]

/-- An answer is taken from what was known at the start, or else from the file as it was when
it was first asked for. -/
theorem answer_run (session : Session) (history : List Event) (path : String) (number : Nat) :
    (session.run history).answer path number =
      lineOf (session.reading path (filesAtFirst path session.files history)) number := by
  induction history generalizing session with
  | nil => exact fst_get session.cache session.files path number
  | cons event later ih =>
      rw [← reading_step, ← ih (session.step event)]
      rfl

end Session

theorem filesAtFirst_append {path : String} {history : List Event}
    (asked : ∃ number, Event.ask path number ∈ history) (files : FileSystem)
    (later : List Event) :
    filesAtFirst path files (history ++ later) = filesAtFirst path files history := by
  fun_induction filesAtFirst path files history with
  | case1 => simp at asked
  | case2 files after history ih =>
      rw [List.cons_append, filesAtFirst]
      exact ih (by simpa using asked)
  | case3 files number history => simp [filesAtFirst]
  | case4 files other number history apart ih =>
      rw [List.cons_append, filesAtFirst, if_neg apart]
      exact ih (by simpa [Ne.symm apart] using asked)

/-- Lines are asked for through an empty cache, in any history of requests and changes of
files.  Every answer is the line, without the blanks at its ends, of the file as it was when
its path was asked for the first time, and empty if there was no such line or the file could
not be read.  Once a path has been asked for, nothing that happens later changes an answer
for it. -/
theorem answer_as_first_read (start : FileSystem) (history : List Event) (path : String)
    (number : Nat) :
    let session := Session.run { files := start } history
    Shows ((filesAtFirst path start history).read path) number (session.answer path number) ∧
    ((∃ earlier, Event.ask path earlier ∈ history) → ∀ later,
      (session.run later).answer path number = session.answer path number) := by
  intro session
  have answered (events : List Event) :
      (Session.run { files := start } events).answer path number =
        lineOf (load (filesAtFirst path start events) path) number :=
    Session.answer_run { files := start } events path number
  constructor
  · rw [answered]
    exact shows_lineOf_load (filesAtFirst path start history) path number
  · intro asked later
    have longer : session.run later = Session.run { files := start } (history ++ later) :=
      List.foldl_append.symm
    rw [longer, answered, answered, filesAtFirst_append asked]

/-- Two files are asked for; then one of them is taken away and the other one, which was not
there, is written.  Both answers stay as they were, also after the files are back. -/
theorem answer_as_first_read_of_removed_file :
    let start : FileSystem :=
      { root := .folder [("a.py", .file (.text "import os\r\n\t@job \n"))] }
    let changed : FileSystem := { root := .folder [("b.py", .file (.text "@job\n"))] }
    let history : List Event := [.ask "b.py" 7, .ask "a.py" 0, .change changed]
    let session := Session.run { files := start } history
    let later : List Event := [.ask "b.py" 1, .change start]
    changed.read "b.py" = .ok "@job\n" ∧
      (∃ earlier, Event.ask "a.py" earlier ∈ history) ∧
      Shows (start.read "a.py") 2 (session.answer "a.py" 2) ∧
      session.answer "a.py" 2 = "@job" ∧ (session.run later).answer "a.py" 2 = "@job" ∧
      (∃ earlier, Event.ask "b.py" earlier ∈ history) ∧
      Shows (start.read "b.py") 1 (session.answer "b.py" 1) ∧
      session.answer "b.py" 1 = "" ∧ (session.run later).answer "b.py" 1 = "" := by
  intro start changed history session later
  have firstAsked : ∃ earlier, Event.ask "a.py" earlier ∈ history := ⟨0, by simp [history]⟩
  have secondAsked : ∃ earlier, Event.ask "b.py" earlier ∈ history := ⟨7, by simp [history]⟩
  have first : session.answer "a.py" 2 = "@job" := by
    decide +kernel
  have second : session.answer "b.py" 1 = "" := by
    decide +kernel
  obtain ⟨firstShown, firstStays⟩ := answer_as_first_read start history "a.py" 2
  obtain ⟨secondShown, secondStays⟩ := answer_as_first_read start history "b.py" 1
  exact ⟨by decide +kernel, firstAsked, firstShown, first, (firstStays firstAsked later).trans first,
    secondAsked, secondShown, second, (secondStays secondAsked later).trans second⟩

end DecoratorLint.SourceLines
