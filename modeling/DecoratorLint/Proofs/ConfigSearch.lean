import DecoratorLint.Proofs.CollectedFiles
import DecoratorLint.Proofs.ConfigReading
import DecoratorLint.Proofs.DirectiveMeaning

/-!
# The search for a configuration

The search climbs from the start to the paths above it, which end because each has one
part less than the one below.  It takes the first file on the way that has the section,
and nothing that is wrong with a file stops it.
-/

namespace DecoratorLint

namespace Text

/-! ## Pieces of a path -/

theorem length_pieces_le (isSeparator : Char → Bool) (text : List Char) :
    (pieces isSeparator text).length ≤ text.length + 1 := by
  induction text with
  | nil => simp
  | cons char text ih =>
      rw [pieces, List.length_cons]
      split
      · rw [List.length_cons]
        omega
      · cases shape : pieces isSeparator text with
        | nil => exact absurd shape (pieces_ne_nil isSeparator text)
        | cons piece more =>
            rw [shape, List.length_cons] at ih
            rw [List.length_cons]
            omega

end Text

namespace Path

/-! ## The parts of a path -/

theorem length_number_le (start : Nat) (segments : List String) :
    (parts.number start segments).length ≤ segments.length := by
  induction segments generalizing start with
  | nil => simp [parts.number]
  | cons segment segments ih =>
      have later := ih (start + 1)
      rw [parts.number]
      split
      · rw [List.length_cons, List.length_cons]
        omega
      · rw [List.length_cons]
        omega

theorem le_of_mem_number {start : Nat} {segments : List String} {part : Nat × String}
    (member : part ∈ parts.number start segments) : start ≤ part.1 := by
  induction segments generalizing start with
  | nil => simp [parts.number] at member
  | cons segment segments ih =>
      rw [parts.number] at member
      split at member
      · rcases List.mem_cons.mp member with rfl | member
        · exact Nat.le_refl start
        · exact Nat.le_of_succ_le (ih member)
      · exact Nat.le_of_succ_le (ih member)

/-- The parts of a path have increasing indices. -/
theorem pairwise_number (start : Nat) (segments : List String) :
    (parts.number start segments).Pairwise fun first second => first.1 < second.1 := by
  induction segments generalizing start with
  | nil => simp [parts.number]
  | cons segment segments ih =>
      rw [parts.number]
      split
      · exact List.pairwise_cons.mpr ⟨fun part member => le_of_mem_number member, ih (start + 1)⟩
      · exact ih (start + 1)

/-- The parts in the first segments are those with the first indices. -/
theorem number_take (start count : Nat) (segments : List String) :
    parts.number start (segments.take count) =
      (parts.number start segments).filter fun part => part.1 < start + count := by
  induction segments generalizing start count with
  | nil => simp [parts.number]
  | cons segment segments ih =>
      cases count with
      | zero =>
          symm
          rw [List.take_zero, parts.number, List.filter_eq_nil_iff]
          intro part member
          have later := le_of_mem_number member
          simp only [decide_eq_true_eq]
          omega
      | succ count =>
          have shift : start + 1 + count = start + (count + 1) := by
            omega
          rw [List.take_succ_cons, parts.number, parts.number, ih, shift]
          split
          · rw [List.filter_cons_of_pos (by simp)]
          · rfl

theorem exists_mem_number {segments : List String} {segment : String} (start : Nat)
    (member : segment ∈ segments) (nonempty : segment ≠ "") (pointless : segment ≠ ".") :
    ∃ index, (index, segment) ∈ parts.number start segments := by
  induction segments generalizing start with
  | nil => contradiction
  | cons first rest ih =>
      rw [parts.number]
      rcases List.mem_cons.mp member with rfl | member
      · exact ⟨start, by simp [counts, nonempty, pointless]⟩
      · obtain ⟨index, later⟩ := ih (start + 1) member
        refine ⟨index, ?_⟩
        split
        · exact List.mem_cons_of_mem _ later
        · exact later

theorem length_parts_le (path : String) : (parts path).length ≤ path.length + 1 := by
  have few := length_number_le 0 (segments path)
  have bound := Text.length_pieces_le (· = '/') path.toList
  have same : (segments path).length = (Text.pieces (· = '/') path.toList).length := by
    rw [segments, Text.splitAt, List.length_map]
  rw [String.length_toList] at bound
  rw [parts]
  omega

theorem segments_joinWith_take {path : String} {count : Nat} (positive : 0 < count) :
    segments (Text.joinWith "/" ((segments path).take count)) = (segments path).take count := by
  apply Text.splitAt_joinWith
  · simp [segments, Text.splitAt_ne_nil]
    omega
  · exact fun part member => Text.not_mem_of_mem_splitAt (List.mem_of_mem_take member)

theorem parent?_eq_none_iff {path : String} : parent? path = none ↔ parts path = [] := by
  rw [parent?]
  split <;> simp_all

/-- The path one level up, told by the parts of a path. -/
theorem parent?_cases {path above : String} (up : parent? path = some above) :
    (∃ last, parts path = [last] ∧ above = if isAbsolute path then "/" else "") ∨
      ∃ front index segment last, parts path = front ++ [(index, segment), last] ∧
        above = Text.joinWith "/" ((segments path).take (index + 1)) := by
  have forwards := List.reverse_reverse (parts path)
  rw [parent?] at up
  split at up
  · contradiction
  · rename_i last reversed
    rw [reversed] at forwards
    exact .inl ⟨last, forwards.symm, (Option.some.inj up).symm⟩
  · rename_i last index segment more reversed
    rw [reversed, List.reverse_cons, List.reverse_cons, List.append_assoc] at forwards
    exact .inr ⟨more.reverse, index, segment, last, forwards.symm, (Option.some.inj up).symm⟩

/-- The path one level up has the same parts but the last. -/
theorem parts_of_parent? {path above : String} (up : parent? path = some above) :
    parts above = (parts path).dropLast := by
  rcases parent?_cases up with ⟨last, single, rfl⟩ | ⟨front, index, segment, last, shape, rfl⟩
  · rw [single]
    split <;> rfl
  · have increasing : (parts path).Pairwise fun first second => first.1 < second.1 :=
      pairwise_number 0 (segments path)
    rw [shape, List.pairwise_append] at increasing
    obtain ⟨_, ends, before⟩ := increasing
    have earlier : ∀ part ∈ front, part.1 < index + 1 := by
      intro part member
      exact Nat.lt_succ_of_lt (before part member (index, segment) List.mem_cons_self)
    have later : index < last.1 := List.rel_of_pairwise_cons ends List.mem_cons_self
    calc
      parts (Text.joinWith "/" ((segments path).take (index + 1)))
          = parts.number 0 ((segments path).take (index + 1)) := by
            rw [parts, segments_joinWith_take (Nat.succ_pos index)]
      _ = (parts path).filter fun part => part.1 < index + 1 := by
            rw [number_take, Nat.zero_add, parts]
      _ = front ++ [(index, segment)] := by
            rw [shape, List.filter_append, List.filter_eq_self.mpr (by simpa using earlier),
              List.filter_cons_of_pos (by simp), List.filter_cons_of_neg, List.filter_nil]
            simp only [decide_eq_true_eq]
            omega
      _ = (parts path).dropLast := by
            rw [shape, List.dropLast_append_of_ne_nil (by simp)]
            rfl

theorem length_parts_of_parent? {path above : String} (up : parent? path = some above) :
    (parts path).length = (parts above).length + 1 := by
  have nonempty : parts path ≠ [] := by
    rw [Ne, ← parent?_eq_none_iff, up]
    simp
  have positive := List.length_pos_iff.mpr nonempty
  rw [parts_of_parent? up, List.length_dropLast]
  omega

/-! ## Relative paths -/

theorem isAbsolute_iff {path : String} :
    isAbsolute path = true ↔ ∃ next rest, segments path = "" :: next :: rest := by
  rw [isAbsolute, decide_eq_true_iff, segments, Text.splitAt]
  cases path.toList with
  | nil => simp
  | cons char text =>
      obtain ⟨piece, more, shape⟩ :=
        List.exists_cons_of_ne_nil (Text.pieces_ne_nil (· = '/') text)
      rw [Text.pieces, shape]
      by_cases slash : char = '/' <;> simp [slash]

/-- Above a relative path there are only relative paths. -/
theorem isAbsolute_of_parent? {path above : String} (up : parent? path = some above)
    (absolute : isAbsolute above = true) : isAbsolute path = true := by
  rcases parent?_cases up with ⟨last, _, rfl⟩ | ⟨front, index, segment, last, _, rfl⟩
  · by_contra relative
    rw [if_neg relative] at absolute
    exact absurd absolute (by decide)
  · rw [isAbsolute_iff, segments_joinWith_take (Nat.succ_pos index)] at absolute
    obtain ⟨next, rest, shape⟩ := absolute
    rw [isAbsolute_iff, ← List.take_append_drop (index + 1) (segments path), shape]
    exact ⟨next, _, rfl⟩

/-- A relative path without parts is empty. -/
theorem eq_empty_of_parts_eq_nil {path : String} (relative : isAbsolute path = false)
    (partless : parts path = []) : path = "" := by
  obtain ⟨first, rest, shape⟩ := List.exists_cons_of_ne_nil (Text.splitAt_ne_nil '/' path)
  have blank : first = "" := by
    by_contra written
    rw [parts, segments, shape, parts.number, if_pos (by simp [counts, written])] at partless
    contradiction
  subst blank
  cases rest with
  | nil => exact Text.splitAt_eq_singleton_empty_iff.mp shape
  | cons next rest =>
      have absolute := isAbsolute_iff.mpr ⟨next, rest, shape⟩
      rw [relative] at absolute
      contradiction

end Path

/-! ## Paths of files -/

namespace FileSystem

theorem exists_locate_of_isFile {system : FileSystem} {path : String}
    (file : system.isFile path = true) :
    ∃ place content, system.locate path = .ok place ∧
      system.nodeAt? place = some (.file content) := by
  rw [isFile] at file
  split at file
  · rename_i content found
    obtain ⟨place, located, present⟩ := bind_eq_ok_iff.mp found
    refine ⟨place, content, located, ?_⟩
    split at present
    · rename_i tree atPlace
      cases present
      exact nodeAt?_eq_of_at? atPlace
    · contradiction
  · contradiction

/-- The last segment of the path of a file is more than a point. -/
theorem exists_name_of_locate {system : FileSystem} {path : String} {place : List String}
    (located : system.locate path = .ok place) {content : Content}
    (file : system.nodeAt? place = some (.file content)) :
    ∃ segment ∈ Path.segments path, segment ≠ "" ∧ segment ≠ "." := by
  rw [locate] at located
  split at located
  · contradiction
  · rcases List.eq_nil_or_concat (Path.segments path) with none | ⟨front, last, shape⟩
    · exact absurd none (Text.splitAt_ne_nil '/' path)
    · rw [List.concat_eq_append] at shape
      rw [shape, foldlM_enter_concat_eq_ok_iff] at located
      obtain ⟨middle, _, entered⟩ := located
      refine ⟨last, by simp [shape], not_or.mp ?_⟩
      -- Otherwise the path would lead to the folder before its last segment.
      intro idle
      have folder := (enter_cases entered).1
      rw [← enter_idle idle entered, file] at folder
      cases folder

theorem read_eq_ok_iff {system : FileSystem} {path text : String} :
    system.read path = .ok text ↔ system.find path = .ok (.file (.text text)) := by
  rw [read]
  split <;> simp_all

end FileSystem

theorem Toml.get?_eq_some_iff {key : String} {document value : Toml} :
    document.get? key = some value ↔
      ∃ entries, document = .table entries ∧ entries.lookup key = some value := by
  cases document <;> simp [get?]

namespace Config

/-! ## Climbing -/

/-- A path and the paths above it: each is the parent of the one before it, and the last
has no parent. -/
inductive Climb : String → List String → Prop where
  | top {path : String} (last : Path.parent? path = none) : Climb path [path]
  | step {path above : String} {folders : List String} (up : Path.parent? path = some above)
      (climb : Climb above folders) : Climb path (path :: folders)

/-- As many steps as a path has parts are enough to get to the end. -/
theorem climb_withParentsUpTo {fuel : Nat} {path : String}
    (enough : (Path.parts path).length ≤ fuel) : Climb path (withParentsUpTo fuel path) := by
  induction fuel generalizing path with
  | zero =>
      apply Climb.top
      rw [Path.parent?_eq_none_iff]
      exact List.length_eq_zero_iff.mp (Nat.le_zero.mp enough)
  | succ fuel ih =>
      rw [withParentsUpTo]
      cases up : Path.parent? path with
      | none => exact .top up
      | some above =>
          have shorter := Path.length_parts_of_parent? up
          exact .step up (ih (by omega))

theorem climb_withParents (path : String) : Climb path (withParents path) :=
  climb_withParentsUpTo (Path.length_parts_le path)

theorem Climb.unique {path : String} {folders others : List String} (climb : Climb path folders)
    (other : Climb path others) : folders = others := by
  induction climb generalizing others with
  | top last =>
      cases other with
      | top _ => rfl
      | step up _ => simp [last] at up
  | step up _ ih =>
      cases other with
      | top last => simp [last] at up
      | step otherUp rest =>
          rw [up, Option.some.injEq] at otherUp
          subst otherUp
          rw [ih rest]

theorem Climb.length_eq {path : String} {folders : List String} (climb : Climb path folders) :
    folders.length = (Path.parts path).length + 1 := by
  induction climb with
  | top last =>
      rw [Path.parent?_eq_none_iff.mp last]
      rfl
  | step up _ ih => rw [List.length_cons, ih, Path.length_parts_of_parent? up]

/-- From a relative path one gets to the empty path. -/
theorem Climb.getLast?_eq {path : String} {folders : List String} (climb : Climb path folders)
    (relative : Path.isAbsolute path = false) : folders.getLast? = some "" := by
  induction climb with
  | top last =>
      rw [Path.eq_empty_of_parts_eq_nil relative (Path.parent?_eq_none_iff.mp last)]
      rfl
  | @step path above folders up climb ih =>
      have aboveRelative : Path.isAbsolute above = false := by
        rw [← Bool.not_eq_true] at relative ⊢
        exact mt (Path.isAbsolute_of_parent? up) relative
      rw [List.getLast?_cons, ih aboveRelative]
      rfl

/-- The folder in which the search starts: the folder of a file, and any other path itself. -/
def StartsIn (system : FileSystem) (start folder : String) : Prop :=
  if system.isFile start then Path.parent? start = some folder else folder = start

/-- A path that leads to a file has a parent. -/
theorem parent?_ne_none_of_isFile {system : FileSystem} {path : String}
    (file : system.isFile path = true) : Path.parent? path ≠ none := by
  obtain ⟨place, content, located, present⟩ := FileSystem.exists_locate_of_isFile file
  obtain ⟨segment, member, nonempty, pointless⟩ := FileSystem.exists_name_of_locate located present
  obtain ⟨index, part⟩ := Path.exists_mem_number 0 member nonempty pointless
  rw [Ne, Path.parent?_eq_none_iff]
  exact List.ne_nil_of_mem part

theorem exists_startsIn (system : FileSystem) (start : String) :
    ∃ folder, StartsIn system start folder ∧ searchFolders system start = withParents folder := by
  by_cases file : system.isFile start = true
  · obtain ⟨folder, up⟩ := Option.ne_none_iff_exists'.mp (parent?_ne_none_of_isFile file)
    exact ⟨folder, by rw [StartsIn, if_pos file, up], by rw [searchFolders, if_pos file, up]⟩
  · exact ⟨start, by rw [StartsIn, if_neg file], by rw [searchFolders, if_neg file]⟩

/-! ## The nearest file -/

/-- A folder offers a configuration: its file `pyproject.toml` is there, the content of the
file is text and a document, and the document has the section inside a table `tool`. -/
def Offers (system : FileSystem) (folder : String) : Prop :=
  ∃ content document tool value,
    system.find (Path.join folder "pyproject.toml") = .ok (.file (.text content)) ∧
    Toml.parse? content.toList = some (.table document) ∧
    document.lookup "tool" = some (.table tool) ∧ tool.lookup "annotation-lint" = some value

theorem isSome_sectionAt?_iff {system : FileSystem} {folder : String} :
    (sectionAt? system (Path.join folder fileName)).isSome = true ↔ Offers system folder := by
  rw [Option.isSome_iff_exists]
  simp only [sectionAt?_eq_some_iff, HoldsSection, FileSystem.read_eq_ok_iff, section?,
    Option.bind_eq_some_iff, Toml.get?_eq_some_iff]
  constructor
  · rintro ⟨value, content, _, found, parsed, _, ⟨document, rfl, held⟩, tool, rfl, present⟩
    exact ⟨content, document, tool, value, found, parsed, held, present⟩
  · rintro ⟨content, document, tool, value, found, parsed, held, present⟩
    exact ⟨value, content, _, found, parsed, _, ⟨document, rfl, held⟩, tool, rfl, present⟩

/-- The first of some folders that offers a configuration. -/
def Nearest (system : FileSystem) (folders : List String) (folder : String) : Prop :=
  ∃ nearer further, folders = nearer ++ folder :: further ∧ Offers system folder ∧
    ∀ other ∈ nearer, ¬ Offers system other

theorem discover?_eq_some_iff {system : FileSystem} {start path : String} :
    discover? system start = some path ↔
      ∃ folder, Nearest system (searchFolders system start) folder ∧
        path = Path.join folder fileName := by
  rw [discover?, List.find?_map, Option.map_eq_some_iff]
  simp only [List.find?_eq_some_iff_append, Function.comp_apply, Bool.not_eq_true',
    ← Bool.not_eq_true, isSome_sectionAt?_iff]
  constructor
  · rintro ⟨folder, ⟨offers, nearer, further, split, passed⟩, rfl⟩
    exact ⟨folder, ⟨nearer, further, split, offers, passed⟩, rfl⟩
  · rintro ⟨folder, ⟨nearer, further, split, offers, passed⟩, rfl⟩
    exact ⟨folder, ⟨offers, nearer, further, split, passed⟩, rfl⟩

theorem discover?_eq_none_iff {system : FileSystem} {start : String} :
    discover? system start = none ↔
      ∀ folder ∈ searchFolders system start, ¬ Offers system folder := by
  simp [discover?, isSome_sectionAt?_iff]

/-- The search always comes to an end: there is a folder in which it starts, and above it
are as many folders as it has parts; from a relative one they lead to the empty path.  It
finds the file of the nearest folder that offers a configuration, and nothing exactly when
none of them does. -/
theorem discover?_nearest (system : FileSystem) (start : String) :
    ∃ first folders, StartsIn system start first ∧ Climb first folders ∧
      folders.length = (Path.parts first).length + 1 ∧
      (Path.isAbsolute first = false → folders.getLast? = some "") ∧
      (∀ path, discover? system start = some path ↔
        ∃ folder, Nearest system folders folder ∧ path = Path.join folder "pyproject.toml") ∧
      (discover? system start = none ↔ ∀ folder ∈ folders, ¬ Offers system folder) := by
  obtain ⟨first, starts, searched⟩ := exists_startsIn system start
  have climb := climb_withParents first
  refine ⟨first, withParents first, starts, climb, climb.length_eq, climb.getLast?_eq, ?_, ?_⟩
  · intro path
    rw [discover?_eq_some_iff, searched]
    rfl
  · rw [discover?_eq_none_iff, searched]

/-- From a file at a relative path, past a file that is not text, past a file whose `tool`
is no table, to the empty path. -/
theorem discover?_nearest_past_unusable_files :
    let system : FileSystem :=
      { root := .folder
          [("pyproject.toml", .file (.text "[tool.annotation-lint]")),
            ("a", .folder
              [("pyproject.toml", .file (.text "tool = 'annotation-lint'")),
                ("b", .folder [("pyproject.toml", .file (.binary [0xff])),
                  ("x.py", .file (.text ""))])])] }
    ∃ folders, Climb "a/./b" folders ∧ folders.length = 3 ∧ folders.getLast? = some "" ∧
      discover? system "a/./b/x.py" = some "pyproject.toml" := by
  intro system
  obtain ⟨first, folders, starts, climb, count, ends, finds, _⟩ :=
    discover?_nearest system "a/./b/x.py"
  rw [StartsIn, if_pos (by decide +kernel)] at starts
  have folder : first = "a/./b" := by
    have up : Path.parent? "a/./b/x.py" = some "a/./b" := by
      decide +kernel
    rw [up] at starts
    exact (Option.some.inj starts).symm
  subst folder
  have shape : folders = ["a/./b", "a", ""] := climb.unique (climb_withParents "a/./b")
  have passed : ∀ other ∈ ["a/./b", "a"], ¬ Offers system other := by
    simp only [← isSome_sectionAt?_iff]
    decide +kernel
  have offers : Offers system "" := by
    rw [← isSome_sectionAt?_iff]
    decide +kernel
  refine ⟨folders, climb, count, ends (by decide), (finds _).mpr ⟨"", ?_, by decide⟩⟩
  exact ⟨["a/./b", "a"], [], shape, offers, passed⟩

end Config

end DecoratorLint
