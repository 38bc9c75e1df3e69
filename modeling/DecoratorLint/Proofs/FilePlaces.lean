import DecoratorLint.Files.FileSystem
import Mathlib.Data.List.Basic
import Mathlib.Data.String.Basic

/-!
# What is at a place

A file tree is seen through what is at its places: nothing, a folder, or a file
with its content.  Changes are told in this view.  Making folders and opening files
only adds places, and adding to a file changes the content at its place and nothing
else.  A path that leads somewhere leads to the same place after such changes.
-/

namespace DecoratorLint

/-- What can be seen at a place of a file tree. -/
inductive Node where
  | folder
  | file (content : Content)
deriving Repr, DecidableEq

/-! ## Trees -/

namespace FileTree

/-- What a tree is at its top. -/
def node : FileTree → Node
  | .folder _ => .folder
  | .file content => .file content

/-- What is at the end of a list of names. -/
def nodeAt? (tree : FileTree) (place : List String) : Option Node :=
  (tree.at? place).map node

@[simp]
theorem nodeAt?_nil (tree : FileTree) : tree.nodeAt? [] = some tree.node := by
  simp [nodeAt?]

@[simp]
theorem nodeAt?_file_cons (content : Content) (name : String) (rest : List String) :
    (FileTree.file content).nodeAt? (name :: rest) = none :=
  rfl

theorem nodeAt?_folder_cons (entries : List (String × FileTree)) (name : String)
    (rest : List String) :
    (FileTree.folder entries).nodeAt? (name :: rest) =
      (entries.lookup name).bind (·.nodeAt? rest) := by
  rw [nodeAt?, at?]
  cases entries.lookup name <;> rfl

theorem at?_append (tree : FileTree) (place rest : List String) :
    tree.at? (place ++ rest) = (tree.at? place).bind (·.at? rest) := by
  induction place generalizing tree with
  | nil => simp
  | cons name place ih =>
      cases tree with
      | file content => rfl
      | folder entries =>
          rw [List.cons_append, at?, at?]
          cases entries.lookup name with
          | none => rfl
          | some child => exact ih child

theorem lookup_cons_eq_ite (other first : String) (tree : FileTree)
    (entries : List (String × FileTree)) :
    ((first, tree) :: entries).lookup other =
      if other = first then some tree else entries.lookup other := by
  by_cases same : other = first
  · simp [same]
  · rw [List.lookup_cons, beq_eq_false_iff_ne.mpr same, if_neg same]

theorem lookup_setEntry (name other : String) (tree : FileTree)
    (entries : List (String × FileTree)) :
    (setEntry name tree entries).lookup other =
      if other = name then some tree else entries.lookup other := by
  induction entries with
  | nil => rw [setEntry, lookup_cons_eq_ite]
  | cons entry entries ih =>
      obtain ⟨first, old⟩ := entry
      rw [setEntry]
      split
      · rename_i same
        subst same
        rw [lookup_cons_eq_ite, lookup_cons_eq_ite]
        split <;> rfl
      · rename_i apart
        rw [lookup_cons_eq_ite, lookup_cons_eq_ite, ih]
        by_cases asked : other = first
        · have unlike : other ≠ name := asked ▸ apart
          rw [if_pos asked, if_neg unlike, if_pos asked]
        · rw [if_neg asked, if_neg asked]

/-- Nothing is below a tree. -/
def IsLeaf (tree : FileTree) : Prop :=
  ∀ name rest, tree.at? (name :: rest) = none

theorem isLeaf_file (content : Content) : (FileTree.file content).IsLeaf :=
  fun _ _ => rfl

theorem isLeaf_emptyFolder : (FileTree.folder []).IsLeaf :=
  fun _ _ => rfl

theorem nodeAt?_of_isLeaf {tree : FileTree} (leaf : tree.IsLeaf) (place : List String) :
    tree.nodeAt? place = if place = [] then some tree.node else none := by
  cases place with
  | nil => simp
  | cons name rest => simp [nodeAt?, leaf name rest]

/-- A new name in a folder is a new place, and all other places stay as they are. -/
theorem nodeAt?_put_new {tree leaf : FileTree} (isLeaf : leaf.IsLeaf) {folder : List String}
    {entries : List (String × FileTree)} (found : tree.at? folder = some (.folder entries))
    {name : String} (free : entries.lookup name = none) (place : List String) :
    (tree.put leaf (folder ++ [name])).nodeAt? place =
      if place = folder ++ [name] then some leaf.node else tree.nodeAt? place := by
  induction folder generalizing tree place with
  | nil =>
      rw [at?_nil, Option.some.injEq] at found
      subst found
      rw [List.nil_append, put, put]
      cases place with
      | nil => simp [node]
      | cons first rest =>
          rw [nodeAt?_folder_cons, nodeAt?_folder_cons, lookup_setEntry]
          by_cases same : first = name
          · subst same
            simp [nodeAt?_of_isLeaf isLeaf, free]
          · simp [same]
  | cons outer folder ih =>
      cases tree with
      | file content => simp at found
      | folder outerEntries =>
          rw [at?] at found
          cases held : outerEntries.lookup outer with
          | none => simp [held] at found
          | some child =>
              rw [held] at found
              rw [List.cons_append, put, held, Option.getD_some]
              cases place with
              | nil => simp [node]
              | cons first rest =>
                  rw [nodeAt?_folder_cons, nodeAt?_folder_cons, lookup_setEntry]
                  by_cases same : first = outer
                  · subst same
                    simp [held, ih found]
                  · simp [same]

/-- A file that is replaced by a file changes at its place only. -/
theorem nodeAt?_put_file {tree : FileTree} {target : List String} {old : Content}
    (found : tree.nodeAt? target = some (.file old)) (new : Content) (place : List String) :
    (tree.put (.file new) target).nodeAt? place =
      if place = target then some (.file new) else tree.nodeAt? place := by
  induction target generalizing tree place with
  | nil =>
      cases tree with
      | folder entries => simp [node] at found
      | file content =>
          rw [put, nodeAt?_of_isLeaf (isLeaf_file new), nodeAt?_of_isLeaf (isLeaf_file content)]
          split <;> rfl
  | cons outer target ih =>
      cases tree with
      | file content => simp at found
      | folder outerEntries =>
          rw [nodeAt?_folder_cons] at found
          cases held : outerEntries.lookup outer with
          | none => simp [held] at found
          | some child =>
              rw [held, Option.bind_some] at found
              rw [put, held, Option.getD_some]
              cases place with
              | nil => simp [node]
              | cons first rest =>
                  rw [nodeAt?_folder_cons, nodeAt?_folder_cons, lookup_setEntry]
                  by_cases same : first = outer
                  · subst same
                    simp [held, ih found]
                  · simp [same]

end FileTree

/-! ## Following a path -/

/-- Steps that can fail give a result when each of them does. -/
theorem bind_eq_ok_iff {ε α β : Type} {first : Except ε α} {next : α → Except ε β} {result : β} :
    (first >>= next) = .ok result ↔ ∃ middle, first = .ok middle ∧ next middle = .ok result := by
  cases first with
  | error cause => simp [bind, Except.bind]
  | ok middle => simp [bind, Except.bind]

namespace FileSystem

/-- What is at a place. -/
def nodeAt? (system : FileSystem) (place : List String) : Option Node :=
  system.root.nodeAt? place

theorem at?_eq_of_nodeAt?_folder {system : FileSystem} {place : List String}
    (found : system.nodeAt? place = some .folder) :
    ∃ entries, system.root.at? place = some (.folder entries) := by
  obtain ⟨tree, present, isFolder⟩ := Option.map_eq_some_iff.mp found
  cases tree with
  | folder entries => exact ⟨entries, present⟩
  | file content => cases isFolder

theorem at?_eq_of_nodeAt?_file {system : FileSystem} {place : List String} {content : Content}
    (found : system.nodeAt? place = some (.file content)) :
    system.root.at? place = some (.file content) := by
  obtain ⟨tree, present, isFile⟩ := Option.map_eq_some_iff.mp found
  cases tree with
  | folder entries => cases isFile
  | file other =>
      cases isFile
      exact present

theorem nodeAt?_eq_of_at? {system : FileSystem} {place : List String} {tree : FileTree}
    (found : system.root.at? place = some tree) : system.nodeAt? place = some tree.node := by
  rw [nodeAt?, FileTree.nodeAt?, found, Option.map_some]

theorem lookup_isSome_iff {system : FileSystem} {place : List String}
    {entries : List (String × FileTree)}
    (found : system.root.at? place = some (.folder entries)) (name : String) :
    (entries.lookup name).isSome = (system.nodeAt? (place ++ [name])).isSome := by
  rw [nodeAt?, FileTree.nodeAt?, FileTree.at?_append, found, Option.bind_some, FileTree.at?]
  cases entries.lookup name <;> simp

/-- One segment further, told by what is at the places. -/
theorem enter_eq (system : FileSystem) (place : List String) (segment : String) :
    system.enter place segment =
      match system.nodeAt? place with
      | none => .error .notFound
      | some (.file _) => .error .notFolder
      | some .folder =>
          if segment = "" || segment = "." then
            .ok place
          else if segment = ".." then
            .ok place.dropLast
          else if (system.nodeAt? (place ++ [segment])).isSome then
            .ok (place ++ [segment])
          else
            .error .notFound := by
  rw [enter]
  cases found : system.root.at? place with
  | none => simp [nodeAt?, FileTree.nodeAt?, found]
  | some tree =>
      rw [nodeAt?_eq_of_at? found]
      cases tree with
      | file content => rfl
      | folder entries => simp only [FileTree.node, lookup_isSome_iff found]

/-- What was there is still there, folders as folders and files as files. -/
structure Keeps (before after : FileSystem) : Prop where
  current : after.current = before.current
  folder : ∀ place, before.nodeAt? place = some .folder → after.nodeAt? place = some .folder
  file : ∀ place content, before.nodeAt? place = some (.file content) →
    ∃ later, after.nodeAt? place = some (.file later)

namespace Keeps

theorem refl (system : FileSystem) : Keeps system system :=
  ⟨rfl, fun _ found => found, fun _ content found => ⟨content, found⟩⟩

theorem isSome {before after : FileSystem} (keeps : Keeps before after) {place : List String}
    (found : (before.nodeAt? place).isSome = true) : (after.nodeAt? place).isSome = true := by
  obtain ⟨node, present⟩ := Option.isSome_iff_exists.mp found
  cases node with
  | folder => simp [keeps.folder place present]
  | file content =>
      obtain ⟨later, still⟩ := keeps.file place content present
      simp [still]

/-- A step that could be taken can still be taken. -/
theorem enter {before after : FileSystem} (keeps : Keeps before after) {place next : List String}
    {segment : String} (entered : before.enter place segment = .ok next) :
    after.enter place segment = .ok next := by
  rw [enter_eq] at entered ⊢
  cases found : before.nodeAt? place with
  | none => simp [found] at entered
  | some node =>
      cases node with
      | file content => simp [found] at entered
      | folder =>
          rw [found] at entered
          rw [keeps.folder place found]
          simp only at entered ⊢
          split
          · rename_i stays
            simpa [stays] using entered
          · rename_i goes
            rw [if_neg goes] at entered
            split
            · rename_i up
              simpa [up] using entered
            · rename_i down
              rw [if_neg down] at entered
              split at entered
              · rename_i there
                rw [if_pos (keeps.isSome there)]
                exact entered
              · contradiction

theorem foldlM_enter {before after : FileSystem} (keeps : Keeps before after)
    {segments : List String} {place last : List String}
    (followed : segments.foldlM before.enter place = .ok last) :
    segments.foldlM after.enter place = .ok last := by
  induction segments generalizing place with
  | nil => exact followed
  | cons segment segments ih =>
      rw [List.foldlM_cons, bind_eq_ok_iff] at followed ⊢
      obtain ⟨next, entered, followed⟩ := followed
      exact ⟨next, keeps.enter entered, ih followed⟩

/-- A path that led somewhere leads to the same place. -/
theorem locate {before after : FileSystem} (keeps : Keeps before after) {path : String}
    {place : List String} (located : before.locate path = .ok place) :
    after.locate path = .ok place := by
  rw [FileSystem.locate] at located ⊢
  split
  · rename_i empty
    simp [empty] at located
  · rename_i nonempty
    rw [if_neg nonempty] at located
    have origin : after.origin path = before.origin path := by
      rw [FileSystem.origin, FileSystem.origin, keeps.current]
    rw [origin]
    exact keeps.foldlM_enter located

end Keeps

theorem find_of_locate {system : FileSystem} {path : String} {place : List String}
    (located : system.locate path = .ok place) {tree : FileTree}
    (present : system.root.at? place = some tree) : system.find path = .ok tree := by
  rw [find, bind_eq_ok_iff]
  exact ⟨place, located, by rw [present]⟩

theorem read_of_locate {system : FileSystem} {path : String} {place : List String}
    (located : system.locate path = .ok place) {text : String}
    (found : system.nodeAt? place = some (.file (.text text))) : system.read path = .ok text := by
  rw [read, find_of_locate located (at?_eq_of_nodeAt?_file found)]

/-! ## Making folders and opening files -/

/-- A new name in a folder is a new place, and all other places stay as they are. -/
theorem nodeAt?_put {system : FileSystem} {folder : List String} {name : String}
    (found : system.nodeAt? folder = some .folder)
    (free : system.nodeAt? (folder ++ [name]) = none) {leaf : FileTree} (isLeaf : leaf.IsLeaf)
    (place : List String) :
    (system.put (folder ++ [name]) leaf).nodeAt? place =
      if place = folder ++ [name] then some leaf.node else system.nodeAt? place := by
  obtain ⟨entries, present⟩ := at?_eq_of_nodeAt?_folder found
  have unlisted : entries.lookup name = none := by
    have listed := lookup_isSome_iff present name
    rw [free, Option.isSome_none] at listed
    simpa using listed
  exact FileTree.nodeAt?_put_new isLeaf present unlisted place

/-- Places were added, as folders or as empty files, and nothing else changed. -/
structure Grows (before after : FileSystem) : Prop where
  current : after.current = before.current
  full : after.full = before.full
  node : ∀ place, after.nodeAt? place = before.nodeAt? place ∨
    before.nodeAt? place = none ∧
      (after.nodeAt? place = some .folder ∨ after.nodeAt? place = some (.file (.text "")))

namespace Grows

theorem refl (system : FileSystem) : Grows system system :=
  ⟨rfl, rfl, fun _ => .inl rfl⟩

theorem trans {first second third : FileSystem} (early : Grows first second)
    (late : Grows second third) : Grows first third := by
  refine ⟨late.current.trans early.current, late.full.trans early.full, ?_⟩
  intro place
  rcases late.node place with same | ⟨absent, new⟩
  · rw [same]
    exact early.node place
  · rcases early.node place with same | ⟨_, present⟩
    · exact .inr ⟨same ▸ absent, new⟩
    · rcases present with present | present <;> simp [present] at absent

/-- What was there has not changed. -/
theorem node_eq {before after : FileSystem} (grows : Grows before after) {place : List String}
    {node : Node} (found : before.nodeAt? place = some node) :
    after.nodeAt? place = some node := by
  rcases grows.node place with same | ⟨absent, _⟩
  · rw [same, found]
  · simp [found] at absent

theorem keeps {before after : FileSystem} (grows : Grows before after) : Keeps before after :=
  ⟨grows.current, fun _ found => grows.node_eq found, fun _ content found =>
    ⟨content, grows.node_eq found⟩⟩

/-- A file is one that was there, or it is new and empty. -/
theorem file_cases {before after : FileSystem} (grows : Grows before after)
    {place : List String} {content : Content}
    (found : after.nodeAt? place = some (.file content)) :
    before.nodeAt? place = some (.file content) ∨
      before.nodeAt? place = none ∧ content = .text "" := by
  rcases grows.node place with same | ⟨absent, new | new⟩
  · exact .inl (same ▸ found)
  · simp [found] at new
  · rw [found, Option.some.injEq, Node.file.injEq] at new
    exact .inr ⟨absent, new⟩

/-- A new name in a folder, of an empty folder or an empty file. -/
theorem of_put {system : FileSystem} {folder : List String} {name : String}
    (found : system.nodeAt? folder = some .folder)
    (free : system.nodeAt? (folder ++ [name]) = none) {leaf : FileTree} (isLeaf : leaf.IsLeaf)
    (empty : leaf.node = .folder ∨ leaf.node = .file (.text "")) :
    Grows system (system.put (folder ++ [name]) leaf) := by
  refine ⟨rfl, rfl, ?_⟩
  intro place
  rw [nodeAt?_put found free isLeaf]
  split
  · rename_i here
    rw [here]
    exact .inr ⟨free, empty.imp (congrArg some) (congrArg some)⟩
  · exact .inl rfl

end Grows

/-- Where the last segment of a path would be made: the segments before it lead to a
folder.  A path without a last segment is the root. -/
theorem destination_cases {system : FileSystem} {path name : String} {folder : List String}
    {slash : Bool} (destined : system.destination path = .ok (folder, name, slash)) :
    name = "." ∨
      system.nodeAt? folder = some .folder ∧
        ∃ before, (Path.segments path).reverse.dropWhile (· = "") = name :: before ∧
          before.reverse.foldlM system.enter (system.origin path) = .ok folder ∧
          slash = decide ((Path.segments path).reverse.head? = some "") := by
  rw [destination] at destined
  split at destined
  · split at destined
    · contradiction
    · cases destined
      exact .inl rfl
  · rename_i last before shape
    obtain ⟨place, followed, destined⟩ := bind_eq_ok_iff.mp destined
    split at destined
    · rename_i entries present
      cases destined
      exact .inr ⟨nodeAt?_eq_of_at? present, before, shape, followed, rfl⟩
    · contradiction
    · contradiction

theorem folder_of_destination {system : FileSystem} {path name : String} {folder : List String}
    {slash : Bool} (destined : system.destination path = .ok (folder, name, slash))
    (proper : isDots name = false) : system.nodeAt? folder = some .folder := by
  rcases destination_cases destined with rfl | ⟨found, _⟩
  · contradiction
  · exact found

theorem nodeAt?_eq_none {system : FileSystem} {place : List String}
    (absent : system.root.at? place = none) : system.nodeAt? place = none := by
  rw [nodeAt?, FileTree.nodeAt?, absent, Option.map_none]

theorem grows_makeFolder {system made : FileSystem} {path : String}
    (done : system.makeFolder path = .ok made) : Grows system made := by
  rw [makeFolder] at done
  obtain ⟨⟨folder, name, slash⟩, destined, done⟩ := bind_eq_ok_iff.mp done
  simp only at done
  split at done
  · contradiction
  · rename_i proper
    cases done
    simp only [Bool.or_eq_true, not_or, Bool.not_eq_true, Option.isSome_eq_false_iff,
      Option.isNone_iff_eq_none] at proper
    exact Grows.of_put (folder_of_destination destined proper.1) (nodeAt?_eq_none proper.2)
      FileTree.isLeaf_emptyFolder (.inl rfl)

theorem grows_makeFoldersUpTo {fuel : Nat} {system made : FileSystem} {path : String}
    (done : makeFoldersUpTo fuel system path = .ok made) : Grows system made := by
  induction fuel generalizing system made path with
  | zero => cases done
  | succ fuel ih =>
      rw [makeFoldersUpTo] at done
      split at done
      · cases done
        exact Grows.refl system
      · simp only at done
        split at done
        · rename_i first
          cases done
          exact grows_makeFolder first
        · split at done
          · contradiction
          · rename_i above _
            obtain ⟨middle, upper, done⟩ := bind_eq_ok_iff.mp done
            have grown : Grows system middle := ih upper
            split at done
            · rename_i last
              cases done
              exact grown.trans (grows_makeFolder last)
            · split at done
              · cases done
                exact grown
              · contradiction
        · split at done
          · cases done
            exact Grows.refl system
          · contradiction

/-- A path that does not end with a slash has its last segment at its end. -/
theorem segments_of_dropWhile {segments before : List String} {name : String}
    (shape : segments.reverse.dropWhile (· = "") = name :: before)
    (unslashed : segments.reverse.head? ≠ some "") :
    name ≠ "" ∧ segments = before.reverse ++ [name] := by
  cases reversed : segments.reverse with
  | nil => simp [reversed] at shape
  | cons first rest =>
      have nonempty : first ≠ "" := by
        simpa [reversed] using unslashed
      rw [reversed, List.dropWhile_cons_of_neg (by simpa using nonempty)] at shape
      obtain ⟨rfl, rfl⟩ := List.cons.inj shape
      exact ⟨nonempty, by rw [← List.reverse_cons, ← reversed, List.reverse_reverse]⟩

theorem enter_name {system : FileSystem} {folder : List String} {name : String}
    (found : system.nodeAt? folder = some .folder) (nonempty : name ≠ "")
    (proper : isDots name = false)
    (present : (system.nodeAt? (folder ++ [name])).isSome = true) :
    system.enter folder name = .ok (folder ++ [name]) := by
  simp only [isDots, Bool.or_eq_false_iff, decide_eq_false_iff_not] at proper
  rw [enter_eq, found]
  simp [nonempty, proper, present]

/-- The last segment is entered from where the segments before it lead. -/
theorem foldlM_enter_concat_eq_ok_iff {system : FileSystem} {front : List String}
    {segment : String} {place last : List String} :
    (front ++ [segment]).foldlM system.enter place = .ok last ↔
      ∃ middle, front.foldlM system.enter place = .ok middle ∧
        system.enter middle segment = .ok last := by
  rw [List.foldlM_append, bind_eq_ok_iff]
  simp only [List.foldlM_cons, List.foldlM_nil, bind_pure]

/-- A file for which there is a folder is found by its path. -/
theorem locate_of_destination {system opened : FileSystem} {path name : String}
    {folder : List String} (destined : system.destination path = .ok (folder, name, false))
    (proper : isDots name = false) (keeps : Keeps system opened)
    (present : (opened.nodeAt? (folder ++ [name])).isSome = true) :
    opened.locate path = .ok (folder ++ [name]) := by
  rcases destination_cases destined with rfl | ⟨found, before, shape, followed, unslashed⟩
  · contradiction
  · obtain ⟨nonempty, segments⟩ := segments_of_dropWhile shape (by simpa using unslashed.symm)
    have written : path ≠ "" := by
      rintro rfl
      have single : before.reverse ++ [name] = [""] := segments ▸ rfl
      simp [List.append_eq_singleton_iff, nonempty] at single
    have origin : opened.origin path = system.origin path := by
      rw [FileSystem.origin, FileSystem.origin, keeps.current]
    have entered := enter_name (keeps.folder folder found) nonempty proper present
    rw [locate, if_neg written, origin, segments]
    exact foldlM_enter_concat_eq_ok_iff.mpr ⟨folder, keeps.foldlM_enter followed, entered⟩

/-- Opening a file for adding to it: the file is there afterwards, and the path leads
to it. -/
theorem of_openForAppend {system opened : FileSystem} {path : String} {place : List String}
    (done : system.openForAppend path = .ok (opened, place)) :
    Grows system opened ∧ (∃ content, opened.nodeAt? place = some (.file content)) ∧
      opened.locate path = .ok place := by
  rw [openForAppend] at done
  obtain ⟨⟨folder, name, slash⟩, destined, done⟩ := bind_eq_ok_iff.mp done
  simp only at done
  split at done
  · contradiction
  · rename_i proper
    simp only [Bool.or_eq_true, not_or, Bool.not_eq_true] at proper
    obtain ⟨rfl, proper⟩ := proper
    have found := folder_of_destination destined proper
    split at done
    · contradiction
    · rename_i content present
      cases done
      have there := nodeAt?_eq_of_at? present
      exact ⟨Grows.refl system, ⟨content, there⟩,
        locate_of_destination destined proper (Keeps.refl system) (by simp [there])⟩
    · rename_i absent
      cases done
      have free := nodeAt?_eq_none absent
      have isLeaf := FileTree.isLeaf_file (.text "")
      have grows := Grows.of_put found free isLeaf (.inr rfl)
      have there : (system.put (folder ++ [name]) (.file (.text ""))).nodeAt?
          (folder ++ [name]) = some (.file (.text "")) := by
        rw [nodeAt?_put found free isLeaf, if_pos rfl]
        rfl
      exact ⟨grows, ⟨_, there⟩,
        locate_of_destination destined proper grows.keeps (by simp [there])⟩

/-! ## Adding to a file -/

/-- Adding to a file changes the content at its place, and nothing else. -/
theorem nodeAt?_appendAt {system : FileSystem} {target : List String} {content : Content}
    (found : system.nodeAt? target = some (.file content)) (more : String)
    (place : List String) :
    (system.appendAt target more).nodeAt? place =
      if place = target then some (.file (content.append more)) else system.nodeAt? place := by
  rw [appendAt, at?_eq_of_nodeAt?_file found]
  exact FileTree.nodeAt?_put_file found _ place

theorem current_appendAt (system : FileSystem) (target : List String) (more : String) :
    (system.appendAt target more).current = system.current := by
  rw [appendAt]
  split <;> rfl

theorem full_appendAt (system : FileSystem) (target : List String) (more : String) :
    (system.appendAt target more).full = system.full := by
  rw [appendAt]
  split <;> rfl

theorem keeps_appendAt {system : FileSystem} {target : List String} {content : Content}
    (found : system.nodeAt? target = some (.file content)) (more : String) :
    Keeps system (system.appendAt target more) := by
  refine ⟨current_appendAt system target more, ?_, ?_⟩
  · intro place folder
    rw [nodeAt?_appendAt found]
    split
    · rename_i here
      rw [here, found] at folder
      cases folder
    · exact folder
  · intro place old file
    rw [nodeAt?_appendAt found]
    split
    · exact ⟨_, rfl⟩
    · exact ⟨old, file⟩

end FileSystem

/-- The bytes that are added follow those that were there. -/
theorem Content.bytes_append (content : Content) (more : String) :
    (content.append more).bytes = content.bytes ++ more.toUTF8.data.toList := by
  cases content with
  | text value =>
      simp only [append, bytes, String.toUTF8, String.toByteArray_append,
        ByteArray.toList_data_append]
  | binary bytes => rfl

end DecoratorLint
