import DecoratorLint.Files.Collection
import DecoratorLint.Proofs.FilePlaces
import DecoratorLint.Proofs.PathText

/-!
# Which files are collected

The walk through a folder leaves out entries one by one, and looks at all names from
the folder on for each of them.  What it collects is told by the names of a file alone:
the last has the extension of source files, and none of them is listed or has a pattern
in it.  Names above the folder play no part, for the walk starts with no names.
-/

namespace DecoratorLint

/-! ## Names that are left out -/

/-- A name that is neither listed nor has a pattern in it. -/
def Exclusion.Spares (exclusion : Exclusion) (name : String) : Prop :=
  name ∉ exclusion.directories ∧
    ∀ pattern ∈ exclusion.patterns, ¬ pattern.toList <:+: name.toList

/-- The last of the names is something followed by `.py`. -/
def HasSourceName (names : List String) : Prop :=
  ∃ above stem, stem ≠ "" ∧ names = above ++ [stem ++ ".py"]

theorem isSourceName_iff (name : String) :
    isSourceName name = true ↔ ∃ stem, stem ≠ "" ∧ name = stem ++ ".py" := by
  have free : '.' ∉ "py".toList := by
    decide
  have ending (stem : String) : stem ++ String.singleton '.' ++ "py" = stem ++ ".py" :=
    String.append_assoc
  rw [isSourceName, Path.hasExtension_iff free]
  simp only [ending]

theorem hasSourceName_iff (names : List String) :
    names.getLast?.any isSourceName = true ↔ HasSourceName names := by
  rcases List.eq_nil_or_concat names with rfl | ⟨front, last, rfl⟩
  · simp [HasSourceName]
  · rw [List.concat_eq_append, List.getLast?_concat, Option.any_some, isSourceName_iff]
    constructor
    · rintro ⟨stem, nonempty, rfl⟩
      exact ⟨front, stem, nonempty, rfl⟩
    · rintro ⟨above, stem, nonempty, same⟩
      exact ⟨stem, nonempty, by simpa using (List.append_inj' same rfl).2⟩

theorem Exclusion.not_spares_of_mem {exclusion : Exclusion} {pattern : String}
    (listed : pattern ∈ exclusion.patterns) : ¬ exclusion.Spares pattern :=
  fun spared => spared.2 pattern listed List.infix_rfl

/-- Below names that are all spared, an entry is left out for its own name only. -/
theorem Exclusion.excludes_append_eq_false_iff {exclusion : Exclusion} {above : List String}
    (spared : ∀ name ∈ above, exclusion.Spares name) (name : String) :
    exclusion.excludes (above ++ [name]) = false ↔ exclusion.Spares name := by
  rw [excludes, Bool.or_eq_false_iff, List.getLast?_concat]
  simp only [List.any_eq_false, List.contains_iff_mem, List.mem_append, List.mem_singleton,
    Option.any_some, Bool.or_eq_true, not_or, Text.contains, Text.hasFragment_iff]
  constructor
  · rintro ⟨unlisted, free⟩
    exact ⟨fun listed => (unlisted name listed).2 rfl, fun pattern listed =>
      (free pattern listed).1⟩
  · intro own
    refine ⟨fun listed member => ⟨?_, ?_⟩, fun pattern member => ⟨own.2 pattern member, ?_, ?_⟩⟩
    · exact fun inside => (spared listed inside).1 member
    · exact fun same => own.1 (same ▸ member)
    · exact fun inside => not_spares_of_mem member (spared pattern inside)
    · exact fun same => not_spares_of_mem member (same ▸ own)

/-! ## Walking a folder -/

namespace FileTree

/-- A tree in which the entries of a folder have names, no two of them the same. -/
inductive WellFormed : FileTree → Prop
  | file (content : Content) : WellFormed (.file content)
  | folder (entries : List (String × FileTree)) (distinct : (entries.map Prod.fst).Nodup)
      (proper : ∀ entry ∈ entries, Path.IsName entry.1)
      (inner : ∀ entry ∈ entries, WellFormed entry.2) : WellFormed (.folder entries)

theorem mem_of_lookup {entries : List (String × FileTree)} {name : String} {tree : FileTree}
    (found : entries.lookup name = some tree) : (name, tree) ∈ entries := by
  obtain ⟨before, after, rfl, _⟩ := List.lookup_eq_some_iff.mp found
  simp

theorem lookup_of_mem {entries : List (String × FileTree)}
    (distinct : (entries.map Prod.fst).Nodup) {name : String} {tree : FileTree}
    (member : (name, tree) ∈ entries) : entries.lookup name = some tree := by
  obtain ⟨before, after, rfl⟩ := List.append_of_mem member
  refine List.lookup_eq_some_iff.mpr ⟨before, after, rfl, ?_⟩
  intro entry earlier
  rw [List.map_append, List.nodup_append] at distinct
  have apart := distinct.2.2 entry.1 (List.mem_map_of_mem earlier) name (by simp)
  simpa using apart.symm

theorem at?_folder_cons_eq_some_iff {entries : List (String × FileTree)} {name : String}
    {rest : List String} {inner : FileTree} :
    (FileTree.folder entries).at? (name :: rest) = some inner ↔
      ∃ child, entries.lookup name = some child ∧ child.at? rest = some inner := by
  rw [at?]
  cases entries.lookup name <;> simp

theorem WellFormed.at? {tree inner : FileTree} (wellFormed : tree.WellFormed)
    {names : List String} (found : tree.at? names = some inner) :
    inner.WellFormed ∧ ∀ name ∈ names, Path.IsName name := by
  induction wellFormed generalizing names with
  | file content =>
      cases names with
      | nil =>
          cases found
          exact ⟨.file content, by simp⟩
      | cons name names => cases found
  | folder entries distinct proper innerFormed ih =>
      cases names with
      | nil =>
          cases found
          exact ⟨.folder entries distinct proper innerFormed, by simp⟩
      | cons name names =>
          obtain ⟨child, held, below⟩ := at?_folder_cons_eq_some_iff.mp found
          have member := mem_of_lookup held
          obtain ⟨formed, others⟩ := ih (name, child) member below
          exact ⟨formed, List.forall_mem_cons.mpr ⟨proper (name, child) member, others⟩⟩

theorem entriesSourceFiles_eq (exclusion : Exclusion) (above : List String)
    (entries : List (String × FileTree)) :
    entriesSourceFiles exclusion above entries =
      entries.map fun entry =>
        (entry.1, if exclusion.excludes (above ++ [entry.1]) then []
          else entry.2.sourceFiles exclusion (above ++ [entry.1])) := by
  induction entries with
  | nil => rfl
  | cons entry entries ih => rw [entriesSourceFiles, ih, List.map_cons]

/-- The source files in a folder are those in its entries that are not left out. -/
theorem mem_sourceFiles_folder {exclusion : Exclusion} {above names : List String}
    {entries : List (String × FileTree)} :
    names ∈ (FileTree.folder entries).sourceFiles exclusion above ↔
      ∃ entry ∈ entries, exclusion.excludes (above ++ [entry.1]) = false ∧
        names ∈ entry.2.sourceFiles exclusion (above ++ [entry.1]) := by
  rw [sourceFiles, sortByName, entriesSourceFiles_eq]
  simp

/-- What the walk finds in a tree, when all names that lead to the tree are spared. -/
theorem mem_sourceFiles_iff {tree : FileTree} (wellFormed : tree.WellFormed)
    {exclusion : Exclusion} {above names : List String}
    (spared : ∀ name ∈ above, exclusion.Spares name) :
    names ∈ tree.sourceFiles exclusion above ↔
      ∃ below content, names = above ++ below ∧ tree.at? below = some (.file content) ∧
        HasSourceName names ∧ ∀ name ∈ below, exclusion.Spares name := by
  induction wellFormed generalizing above with
  | file content =>
      rw [sourceFiles, List.mem_ite_nil_right, hasSourceName_iff, List.mem_singleton]
      constructor
      · rintro ⟨source, rfl⟩
        exact ⟨[], content, by simp, by simp, source, by simp⟩
      · rintro ⟨below, other, rfl, found, source, _⟩
        cases below with
        | nil => simpa using source
        | cons name rest => cases found
  | folder entries distinct proper inner ih =>
      rw [mem_sourceFiles_folder]
      constructor
      · rintro ⟨⟨name, child⟩, member, kept, found⟩
        have own := (Exclusion.excludes_append_eq_false_iff spared name).mp kept
        have spared : ∀ other ∈ above ++ [name], exclusion.Spares other := by
          simpa [or_imp, forall_and] using ⟨spared, own⟩
        obtain ⟨below, content, rfl, file, source, free⟩ := (ih _ member spared).mp found
        have held := lookup_of_mem distinct member
        exact ⟨name :: below, content, by simp, at?_folder_cons_eq_some_iff.mpr ⟨child, held, file⟩,
          source, List.forall_mem_cons.mpr ⟨own, free⟩⟩
      · rintro ⟨below, content, rfl, file, source, free⟩
        cases below with
        | nil => cases file
        | cons name below =>
            obtain ⟨child, held, file⟩ := at?_folder_cons_eq_some_iff.mp file
            obtain ⟨own, free⟩ := List.forall_mem_cons.mp free
            have member := mem_of_lookup held
            have kept := (Exclusion.excludes_append_eq_false_iff spared name).mpr own
            have spared : ∀ other ∈ above ++ [name], exclusion.Spares other := by
              simpa [or_imp, forall_and] using ⟨spared, own⟩
            exact ⟨(name, child), member, kept, (ih _ member spared).mpr
              ⟨below, content, by simp, file, source, free⟩⟩

end FileTree

/-! ## Paths below a folder -/

namespace FileSystem

/-- An empty segment and a point lead nowhere else. -/
theorem enter_idle {system : FileSystem} {place next : List String} {segment : String}
    (idle : segment = "" ∨ segment = ".") (entered : system.enter place segment = .ok next) :
    next = place := by
  rw [enter] at entered
  split at entered
  · contradiction
  · contradiction
  · simpa [idle] using entered.symm

/-- A name below the path of a folder leads to that entry of the folder. -/
theorem locate_join {system : FileSystem} {path name : String} {place : List String}
    (located : system.locate path = .ok place) (proper : Path.IsName name)
    (folder : system.nodeAt? place = some .folder)
    (present : (system.nodeAt? (place ++ [name])).isSome = true) :
    system.locate (Path.join path name) = .ok (place ++ [name]) := by
  rw [locate] at located
  split at located
  · contradiction
  · rename_i nonempty
    obtain ⟨front, joined, segments⟩ := Path.segments_join nonempty proper
    have followed : front.foldlM system.enter (system.origin path) = .ok place := by
      rcases segments with segments | segments
      · rw [← segments]
        exact located
      · rw [segments, foldlM_enter_concat_eq_ok_iff] at located
        obtain ⟨middle, followed, entered⟩ := located
        rw [enter_idle (.inl rfl) entered]
        exact followed
    have origin : system.origin (Path.join path name) = system.origin path := by
      rw [FileSystem.origin, FileSystem.origin, Path.isAbsolute_join nonempty proper]
    have entered := enter_name folder proper.1 (by simp [isDots, proper.2.1, proper.2.2.1]) present
    rw [locate, if_neg (Path.join_ne_empty nonempty proper), joined, origin]
    exact foldlM_enter_concat_eq_ok_iff.mpr ⟨place, followed, entered⟩

theorem at?_cons_eq_some_iff {system : FileSystem} {place names : List String} {name : String}
    {tree : FileTree} :
    system.root.at? (place ++ name :: names) = some tree ↔
      system.nodeAt? place = some .folder ∧
        ∃ child, system.root.at? (place ++ [name]) = some child ∧ child.at? names = some tree := by
  rw [nodeAt?, FileTree.nodeAt?, FileTree.at?_append, FileTree.at?_append]
  cases system.root.at? place with
  | none => simp
  | some top =>
      cases top with
      | file content => simp
      | folder entries =>
          simp only [Option.bind_some, FileTree.at?_folder_cons_eq_some_iff]
          simp [FileTree.node]

/-- Names below the path of a folder lead to what is there in the folder. -/
theorem locate_pathBelow {system : FileSystem} (wellFormed : system.root.WellFormed)
    {path : String} {place names : List String} (located : system.locate path = .ok place)
    {tree : FileTree} (found : system.root.at? (place ++ names) = some tree) :
    system.locate (pathBelow path names) = .ok (place ++ names) := by
  induction names generalizing path place with
  | nil => simpa [pathBelow] using located
  | cons name names ih =>
      have proper : Path.IsName name := (wellFormed.at? found).2 name (by simp)
      obtain ⟨folder, child, present, _⟩ := at?_cons_eq_some_iff.mp found
      have entered := locate_join located proper folder (by simp [nodeAt?_eq_of_at? present])
      rw [List.append_cons] at found ⊢
      exact ih entered found

/-- Where one can go from a folder: nowhere, one level up, or to an entry. -/
theorem enter_cases {system : FileSystem} {place next : List String} {segment : String}
    (entered : system.enter place segment = .ok next) :
    system.nodeAt? place = some .folder ∧
      (next = place ∨ next = place.dropLast ∨ next = place ++ [segment]) := by
  rw [enter_eq] at entered
  split at entered
  · contradiction
  · contradiction
  · rename_i folder
    refine ⟨folder, ?_⟩
    split at entered
    · exact .inl (Except.ok.inj entered).symm
    · split at entered
      · exact .inr (.inl (Except.ok.inj entered).symm)
      · split at entered
        · exact .inr (.inr (Except.ok.inj entered).symm)
        · contradiction

theorem nodeAt?_dropLast {system : FileSystem} {place : List String}
    (folder : system.nodeAt? place = some .folder) :
    system.nodeAt? place.dropLast = some .folder := by
  rcases List.eq_nil_or_concat place with rfl | ⟨front, last, rfl⟩
  · exact folder
  · rw [List.concat_eq_append] at folder ⊢
    rw [List.dropLast_concat]
    obtain ⟨entries, present⟩ := at?_eq_of_nodeAt?_folder folder
    exact (at?_cons_eq_some_iff.mp present).1

/-- A file has the last segment of its path as its name. -/
theorem getLast?_of_locate_file {system : FileSystem} {path : String} {place : List String}
    (located : system.locate path = .ok place) {content : Content}
    (file : system.nodeAt? place = some (.file content)) :
    (Path.segments path).getLast? = place.getLast? := by
  rw [locate] at located
  split at located
  · contradiction
  · rcases List.eq_nil_or_concat (Path.segments path) with none | ⟨front, last, shape⟩
    · exact absurd none (Text.splitAt_ne_nil '/' path)
    · rw [List.concat_eq_append] at shape
      rw [shape, foldlM_enter_concat_eq_ok_iff] at located
      obtain ⟨middle, _, entered⟩ := located
      rcases enter_cases entered with ⟨folder, rfl | rfl | rfl⟩
      · simp [file] at folder
      · simp [nodeAt?_dropLast folder] at file
      · rw [shape, List.getLast?_concat, List.getLast?_concat]

theorem sourceFiles_of_folder {system : FileSystem} {path : String} {place : List String}
    (located : system.locate path = .ok place) {entries : List (String × FileTree)}
    (folder : system.root.at? place = some (.folder entries)) (exclusion : Exclusion) :
    system.sourceFiles exclusion [path] =
      ((FileTree.folder entries).sourceFiles exclusion []).map (pathBelow path) := by
  simp [sourceFiles, sourceFilesAt, find_of_locate located folder]

theorem sourceFiles_of_file {system : FileSystem} {path : String} {place : List String}
    (located : system.locate path = .ok place) {content : Content}
    (file : system.root.at? place = some (.file content)) (exclusion : Exclusion) :
    system.sourceFiles exclusion [path] =
      if place.getLast?.any isSourceName then [path] else [] := by
  have named := getLast?_of_locate_file located (nodeAt?_eq_of_at? file)
  obtain ⟨last, ending⟩ := Option.ne_none_iff_exists'.mp
    (mt List.getLast?_eq_none_iff.mp (Text.splitAt_ne_nil '/' path))
  rw [← named, Path.segments, ending, Option.any_some]
  simp [sourceFiles, sourceFilesAt, find_of_locate located file, nameOfFile, Path.segments, ending]

end FileSystem

/-! ## What is collected -/

/-- The files that a folder stands for, told by names from the folder on: the same names
for every place of the folder and every path to it.  A file is among them exactly when
it lies below the folder, has the extension, and has only names that are spared.  A file
that is named itself is collected for its extension, whatever is left out. -/
theorem collects_iff (exclusion : Exclusion) :
    (∀ entries, ∃ relative : List (List String),
      ∀ (system : FileSystem) (path : String) (place : List String),
        system.root.WellFormed → system.locate path = .ok place →
        system.root.at? place = some (.folder entries) →
        system.sourceFiles exclusion [path] = relative.map (pathBelow path) ∧
        (∀ names ∈ relative, ∃ content,
          system.locate (pathBelow path names) = .ok (place ++ names) ∧
            system.root.at? (place ++ names) = some (.file content)) ∧
        ∀ target content, system.root.at? target = some (.file content) →
          ((∃ file ∈ system.sourceFiles exclusion [path], system.locate file = .ok target) ↔
            ∃ names, target = place ++ names ∧ HasSourceName names ∧
              ∀ name ∈ names, exclusion.Spares name)) ∧
    ∀ (system : FileSystem) (path : String) (place : List String) (content : Content),
      system.locate path = .ok place → system.root.at? place = some (.file content) →
      (path ∈ system.sourceFiles exclusion [path] ↔ HasSourceName place) ∧
        ∀ file ∈ system.sourceFiles exclusion [path], file = path := by
  constructor
  · intro entries
    refine ⟨(FileTree.folder entries).sourceFiles exclusion [], ?_⟩
    intro system path place wellFormed located folder
    have collected := system.sourceFiles_of_folder located folder exclusion
    have below (names : List String) :
        system.root.at? (place ++ names) = (FileTree.folder entries).at? names := by
      rw [FileTree.at?_append, folder, Option.bind_some]
    have walk (names : List String) :
        names ∈ (FileTree.folder entries).sourceFiles exclusion [] ↔
          ∃ content, system.root.at? (place ++ names) = some (.file content) ∧
            HasSourceName names ∧ ∀ name ∈ names, exclusion.Spares name := by
      rw [FileTree.mem_sourceFiles_iff (wellFormed.at? folder).1 (by simp)]
      simp [below]
    refine ⟨collected, ?_, ?_⟩
    · intro names member
      obtain ⟨content, file, _⟩ := (walk names).mp member
      exact ⟨content, FileSystem.locate_pathBelow wellFormed located file, file⟩
    · intro target content file
      rw [collected]
      constructor
      · rintro ⟨found, member, led⟩
        obtain ⟨names, walked, rfl⟩ := List.mem_map.mp member
        obtain ⟨other, present, source, spared⟩ := (walk names).mp walked
        rw [FileSystem.locate_pathBelow wellFormed located present] at led
        exact ⟨names, (Except.ok.inj led).symm, source, spared⟩
      · rintro ⟨names, rfl, source, spared⟩
        exact ⟨pathBelow path names, List.mem_map_of_mem ((walk names).mpr
          ⟨content, file, source, spared⟩), FileSystem.locate_pathBelow wellFormed located file⟩
  · intro system path place content located file
    rw [system.sourceFiles_of_file located file, ← hasSourceName_iff]
    split
    · rename_i source
      simp [source]
    · rename_i other
      simp [other]

/-- A project below a listed name, reached by two paths: the listed folder in it is left
out, and a file in that folder is collected when it is named itself. -/
theorem collects_iff_below_listed_name :
    let entries : List (String × FileTree) :=
      [("dist", .folder [("c.py", .file (.text ""))]), ("distance.py", .file (.text ""))]
    let system : FileSystem :=
      { root := .folder [("build", .folder [("proj", .folder entries)])] }
    let exclusion : Exclusion := { patterns := ["gen"], directories := ["build", "dist"] }
    (∃ relative : List (List String), system.sourceFiles exclusion ["/build/proj"] =
        relative.map (pathBelow "/build/proj") ∧
      system.sourceFiles exclusion ["build/./proj/"] =
        relative.map (pathBelow "build/./proj/")) ∧
    (∃ file ∈ system.sourceFiles exclusion ["/build/proj"],
      system.locate file = .ok ["build", "proj", "distance.py"]) ∧
    (¬ ∃ file ∈ system.sourceFiles exclusion ["/build/proj"],
      system.locate file = .ok ["build", "proj", "dist", "c.py"]) ∧
    "build/proj/dist/c.py" ∈ system.sourceFiles exclusion ["build/proj/dist/c.py"] := by
  intro entries system exclusion
  have wellFormed : system.root.WellFormed := by
    refine .folder _ (by decide) (by decide) ?_
    simp only [List.forall_mem_singleton]
    refine .folder _ (by decide) (by decide) ?_
    simp only [List.forall_mem_singleton]
    refine .folder _ (by decide) (by decide) ?_
    simp only [entries, List.forall_mem_cons, List.not_mem_nil, false_imp_iff, implies_true,
      and_true]
    refine ⟨.folder _ (by decide) (by decide) ?_, .file _⟩
    simp only [List.forall_mem_singleton]
    exact .file _
  have absolute : system.locate "/build/proj" = .ok ["build", "proj"] := by
    decide +kernel
  have current : system.locate "build/./proj/" = .ok ["build", "proj"] := by
    decide +kernel
  have named : system.locate "build/proj/dist/c.py" = .ok ["build", "proj", "dist", "c.py"] := by
    decide +kernel
  obtain ⟨relative, walks⟩ := (collects_iff exclusion).1 entries
  obtain ⟨collected, _, exactly⟩ := walks system _ _ wellFormed absolute rfl
  refine ⟨⟨relative, collected, (walks system _ _ wellFormed current rfl).1⟩, ?_, ?_, ?_⟩
  · refine (exactly _ (.text "") rfl).mpr ⟨["distance.py"], rfl, ?_, ?_⟩
    · exact ⟨[], "distance", by decide, rfl⟩
    · have unnamed : ∀ name ∈ ([] : List String), exclusion.Spares name := by
        simp
      rw [List.forall_mem_singleton, ← Exclusion.excludes_append_eq_false_iff unnamed]
      decide
  · rw [exactly _ (.text "") rfl]
    rintro ⟨names, same, _, spared⟩
    have below : ["dist", "c.py"] = names := by
      simpa using same
    exact (spared "dist" (by simp [← below])).1 (by decide)
  · refine ((collects_iff exclusion).2 system _ _ (.text "") named rfl).1.mpr ?_
    exact ⟨["build", "proj", "dist"], "c", by decide, rfl⟩

end DecoratorLint
