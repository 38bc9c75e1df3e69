import DecoratorLint.Proofs.CollectedFiles
import Mathlib.Data.List.Lex
import Mathlib.Tactic.SplitIfs

/-!
# The order of collected files

The files of a folder come in the lexicographic order of their names from the folder on,
where two names compare as their bytes do.  The walk sorts each folder on its own, by code
points; this is the order of the bytes, for the bytes of a character are its digits behind
a mark that grows with their number.
-/

namespace DecoratorLint

namespace Text

/-! ## Names and their bytes -/

/-- The bytes of a text. -/
def bytes (text : String) : List UInt8 :=
  text.toUTF8.data.toList

/-- The lowest digits of a code in base 64, each in a byte with the mark of bytes that are
not the first. -/
def trailingBytes : Nat → Nat → List UInt8
  | 0, _ => []
  | count + 1, code => UInt8.ofNat (code / 64 ^ count % 64 + 0x80) :: trailingBytes count code

/-- How many bytes follow the first byte of a character. -/
def trailingCount (code : Nat) : Nat :=
  if code ≤ 0x7f then 0 else if code ≤ 0x7ff then 1 else if code ≤ 0xffff then 2 else 3

/-- The first byte of a character: the highest digits with a mark for the number of bytes
that follow. -/
def leadingByte (code : Nat) : Nat :=
  if code ≤ 0x7f then code
  else if code ≤ 0x7ff then code / 64 + 0xc0
  else if code ≤ 0xffff then code / 4096 + 0xe0
  else code / 262144 + 0xf0

theorem code_lt (char : Char) : char.toNat < 0x110000 := by
  have valid : char.toNat.isValidChar := char.valid
  rw [Nat.isValidChar] at valid
  omega

theorem leadingByte_lt (char : Char) : leadingByte char.toNat < 256 := by
  have bound := code_lt char
  rw [leadingByte]
  split_ifs <;> omega

theorem utf8EncodeChar_eq (char : Char) :
    String.utf8EncodeChar char =
      UInt8.ofNat (leadingByte char.toNat) ::
        trailingBytes (trailingCount char.toNat) char.toNat := by
  have bound := code_lt char
  simp only [String.utf8EncodeChar, Char.toNat_val, leadingByte, trailingCount]
  split_ifs
  · rfl
  · rw [Nat.mod_eq_of_lt (b := 32) (by omega)]
    simp [trailingBytes]
  · rw [Nat.mod_eq_of_lt (b := 16) (by omega)]
    simp [trailingBytes]
  · rw [Nat.mod_eq_of_lt (b := 8) (by omega)]
    simp [trailingBytes]

theorem ofNat_lt_ofNat {low high : Nat} (less : low < high) (small : high < 256) :
    UInt8.ofNat low < UInt8.ofNat high :=
  (UInt8.ofNat_lt_iff_lt (less.trans small) small).mpr less

/-- Of two characters with different codes, the first bytes differ in the same direction, or
they are the same and what is left for the other bytes does. -/
theorem leadingByte_cases {low high : Nat} (less : low < high) :
    leadingByte low < leadingByte high ∨
      leadingByte low = leadingByte high ∧ trailingCount low = trailingCount high ∧
        low % 64 ^ trailingCount low < high % 64 ^ trailingCount low := by
  simp only [leadingByte, trailingCount]
  split_ifs <;> simp only [Nat.pow_zero, Nat.reducePow, eq_self, true_and] <;> omega

/-- Bytes with the same number of digits compare as the digits do. -/
theorem trailingBytes_append_lt {count low high : Nat}
    (less : low % 64 ^ count < high % 64 ^ count) (rest other : List UInt8) :
    trailingBytes count low ++ rest < trailingBytes count high ++ other := by
  induction count with
  | zero =>
      rw [Nat.pow_zero, Nat.mod_one, Nat.mod_one] at less
      contradiction
  | succ count ih =>
      rw [Nat.mod_pow_succ, Nat.mod_pow_succ] at less
      have small : high % 64 ^ count < 64 ^ count := Nat.mod_lt _ (Nat.pow_pos (by decide))
      rcases Nat.lt_trichotomy (low / 64 ^ count % 64) (high / 64 ^ count % 64) with
        digit | digit | digit
      · exact .rel (ofNat_lt_ofNat (by omega) (by omega))
      · rw [digit] at less
        rw [trailingBytes, trailingBytes, digit]
        exact .cons (ih (by omega))
      · -- A greater digit outweighs all that follow it.
        have outweighs := Nat.mul_le_mul_left (64 ^ count) digit
        rw [Nat.mul_succ] at outweighs
        omega

theorem utf8EncodeChar_append_lt {first second : Char} (less : first < second)
    (rest other : List UInt8) :
    String.utf8EncodeChar first ++ rest < String.utf8EncodeChar second ++ other := by
  have codes : first.toNat < second.toNat := less
  rw [utf8EncodeChar_eq, utf8EncodeChar_eq]
  rcases leadingByte_cases codes with leading | ⟨same, count, trailing⟩
  · exact .rel (ofNat_lt_ofNat leading (leadingByte_lt second))
  · rw [← same, ← count]
    exact .cons (trailingBytes_append_lt trailing rest other)

theorem bytes_eq_flatMap (text : String) :
    bytes text = text.toList.flatMap String.utf8EncodeChar := by
  conv_lhs => rw [← String.ofList_toList (s := text)]
  rw [bytes, String.toUTF8, String.toByteArray_ofList, List.utf8Encode,
    List.toList_data_toByteArray]

theorem flatMap_utf8EncodeChar_lt {first second : List Char} (less : first < second) :
    first.flatMap String.utf8EncodeChar < second.flatMap String.utf8EncodeChar := by
  induction less with
  | nil =>
      rw [List.flatMap_nil, List.flatMap_cons, utf8EncodeChar_eq]
      exact .nil
  | rel chars =>
      rw [List.flatMap_cons, List.flatMap_cons]
      exact utf8EncodeChar_append_lt chars _ _
  | cons _ ih =>
      rw [List.flatMap_cons, List.flatMap_cons]
      exact List.Lex.append_left _ ih _

/-- What is less by code points is less by bytes. -/
theorem bytes_lt_bytes {first second : String} (less : first < second) :
    bytes first < bytes second := by
  rw [bytes_eq_flatMap, bytes_eq_flatMap]
  exact flatMap_utf8EncodeChar_lt (String.lt_iff_toList_lt.mp less)

end Text

/-! ## Sorted folders -/

/-- Names from a folder on come before others: at the first difference stands a name with
lesser bytes, or nothing at all. -/
def ComesBefore : List String → List String → Prop :=
  List.Lex fun first second => Text.bytes first < Text.bytes second

theorem ComesBefore.ne {names others : List String} (before : ComesBefore names others) :
    names ≠ others := by
  apply List.Lex.to_ne
  refine List.Lex.imp ?_ _ _ before
  rintro first _ less rfl
  exact List.lt_irrefl _ less

theorem pairwise_le_sortByName {α : Type} (entries : List (String × α)) :
    (sortByName entries).Pairwise fun first second => first.1 ≤ second.1 := by
  rw [sortByName]
  refine (List.pairwise_mergeSort ?transitive ?total entries).imp ?holds
  case transitive =>
    simp only [Bool.not_eq_true', decide_eq_false_iff_not, not_lt]
    exact fun first second third => le_trans
  case total =>
    simp only [Bool.or_eq_true, Bool.not_eq_true', decide_eq_false_iff_not, not_lt]
    exact fun first second => le_total first.1 second.1
  case holds =>
    simp only [Bool.not_eq_true', decide_eq_false_iff_not, not_lt]
    exact id

/-- Entries with different names are sorted strictly. -/
theorem pairwise_lt_sortByName {α : Type} {entries : List (String × α)}
    (distinct : (entries.map Prod.fst).Nodup) :
    (sortByName entries).Pairwise fun first second => first.1 < second.1 := by
  have same : (sortByName entries).Perm entries := List.mergeSort_perm entries _
  have apart : (sortByName entries).Pairwise fun first second => first.1 ≠ second.1 :=
    List.pairwise_map.mp ((same.map Prod.fst).nodup_iff.mpr distinct)
  refine ((pairwise_le_sortByName entries).and apart).imp ?_
  rintro first second ⟨notGreater, different⟩
  exact lt_of_le_of_ne notGreater different

namespace FileTree

theorem prefix_of_mem_sourceFiles {tree : FileTree} (wellFormed : tree.WellFormed)
    {exclusion : Exclusion} {above names : List String}
    (member : names ∈ tree.sourceFiles exclusion above) : above <+: names := by
  induction wellFormed generalizing above with
  | file content =>
      rw [sourceFiles, List.mem_ite_nil_right, List.mem_singleton] at member
      obtain ⟨_, rfl⟩ := member
      exact List.prefix_rfl
  | folder entries _ _ _ ih =>
      obtain ⟨entry, inside, _, found⟩ := mem_sourceFiles_folder.mp member
      exact (List.prefix_append above [entry.1]).trans (ih entry inside found)

/-- What is found in one entry comes before what is found in an entry with a later name. -/
theorem comesBefore_of_name_lt {first second : FileTree} (firstFormed : first.WellFormed)
    (secondFormed : second.WellFormed) {exclusion : Exclusion} {above names others : List String}
    {name other : String} (less : name < other)
    (member : names ∈ first.sourceFiles exclusion (above ++ [name]))
    (otherMember : others ∈ second.sourceFiles exclusion (above ++ [other])) :
    ComesBefore names others := by
  obtain ⟨rest, rfl⟩ := prefix_of_mem_sourceFiles firstFormed member
  obtain ⟨otherRest, rfl⟩ := prefix_of_mem_sourceFiles secondFormed otherMember
  rw [List.append_assoc, List.append_assoc]
  apply List.Lex.append_left
  exact .rel (Text.bytes_lt_bytes less)

/-- The walk finds the files of a tree in order. -/
theorem pairwise_sourceFiles {tree : FileTree} (wellFormed : tree.WellFormed)
    (exclusion : Exclusion) (above : List String) :
    (tree.sourceFiles exclusion above).Pairwise ComesBefore := by
  induction wellFormed generalizing above with
  | file content =>
      rw [sourceFiles]
      split
      · exact List.pairwise_singleton _ _
      · exact .nil
  | folder entries distinct _ inner ih =>
      have sorted : (sortByName (entriesSourceFiles exclusion above entries)).Pairwise
          fun first second => first.1 < second.1 := by
        apply pairwise_lt_sortByName
        rw [entriesSourceFiles_eq, List.map_map]
        exact distinct
      -- What is found for an entry that is not left out comes from its tree.
      have origin : ∀ found ∈ sortByName (entriesSourceFiles exclusion above entries),
          found.2 = [] ∨ ∃ entry ∈ entries, found.1 = entry.1 ∧
            found.2 = entry.2.sourceFiles exclusion (above ++ [entry.1]) := by
        intro found member
        rw [sortByName, List.mem_mergeSort, entriesSourceFiles_eq, List.mem_map] at member
        obtain ⟨entry, inside, rfl⟩ := member
        by_cases excluded : exclusion.excludes (above ++ [entry.1]) = true
        · exact .inl (if_pos excluded)
        · exact .inr ⟨entry, inside, rfl, if_neg excluded⟩
      rw [sourceFiles, List.pairwise_flatMap]
      constructor
      · intro found member
        rcases origin found member with nothing | ⟨entry, inside, _, walked⟩
        · rw [nothing]
          exact .nil
        · rw [walked]
          exact ih entry inside _
      · refine sorted.imp_of_mem ?_
        intro first second firstMember secondMember less names member others otherMember
        rcases origin first firstMember with nothing | ⟨entry, inside, named, walked⟩
        · simp [nothing] at member
        · rcases origin second secondMember with
            nothing | ⟨other, otherInside, otherNamed, otherWalked⟩
          · simp [nothing] at otherMember
          · rw [walked] at member
            rw [otherWalked] at otherMember
            rw [named, otherNamed] at less
            exact comesBefore_of_name_lt (inner entry inside) (inner other otherInside) less member
              otherMember

end FileTree

/-! ## Whole runs -/

namespace FileSystem

theorem sourceFiles_of_not_pathExists {system : FileSystem} {path : String}
    (missing : system.pathExists path = false) (exclusion : Exclusion) :
    system.sourceFiles exclusion [path] = [] := by
  rw [pathExists] at missing
  split at missing
  · contradiction
  · rename_i cause failed
    simp [sourceFiles, sourceFilesAt, failed]

end FileSystem

/-- The files that paths stand for are those of the single paths, one path after the other,
and a path that leads nowhere stands for none.  The files of a folder, which are those with
the extension and with names that are spared, are in the order of their names from the
folder on, and no two of them are at one place. -/
theorem sourceFiles_in_order (exclusion : Exclusion) {system : FileSystem}
    (wellFormed : system.root.WellFormed) :
    (∀ paths, system.sourceFiles exclusion paths =
      (paths.map fun path => system.sourceFiles exclusion [path]).flatten) ∧
    (∀ path, system.pathExists path = false → system.sourceFiles exclusion [path] = []) ∧
    ∀ path place entries, system.locate path = .ok place →
      system.root.at? place = some (.folder entries) →
      ∃ relative : List (List String),
        system.sourceFiles exclusion [path] = relative.map (pathBelow path) ∧
        (∀ names, names ∈ relative ↔
          (∃ content, system.root.at? (place ++ names) = some (.file content)) ∧
            HasSourceName names ∧ ∀ name ∈ names, exclusion.Spares name) ∧
        (∀ names ∈ relative, system.locate (pathBelow path names) = .ok (place ++ names)) ∧
        relative.Pairwise ComesBefore ∧
        (system.sourceFiles exclusion [path]).Pairwise fun file other =>
          system.locate file ≠ system.locate other := by
  refine ⟨?_, fun path missing => FileSystem.sourceFiles_of_not_pathExists missing exclusion, ?_⟩
  · intro paths
    simp [FileSystem.sourceFiles, List.flatMap_def]
  · intro path place entries located folder
    have collected := system.sourceFiles_of_folder located folder exclusion
    have formed := (wellFormed.at? folder).1
    have ordered := FileTree.pairwise_sourceFiles formed exclusion []
    have walk (names : List String) :
        names ∈ (FileTree.folder entries).sourceFiles exclusion [] ↔
          (∃ content, system.root.at? (place ++ names) = some (.file content)) ∧
            HasSourceName names ∧ ∀ name ∈ names, exclusion.Spares name := by
      rw [FileTree.mem_sourceFiles_iff formed (by simp), FileTree.at?_append, folder]
      simp
    have led : ∀ names ∈ (FileTree.folder entries).sourceFiles exclusion [],
        system.locate (pathBelow path names) = .ok (place ++ names) := by
      intro names member
      obtain ⟨⟨content, file⟩, _⟩ := (walk names).mp member
      exact FileSystem.locate_pathBelow wellFormed located file
    refine ⟨_, collected, walk, led, ordered, ?_⟩
    rw [collected, List.pairwise_map]
    refine ordered.imp_of_mem ?_
    intro names others member otherMember before same
    rw [led names member, led others otherMember, Except.ok.injEq,
      List.append_cancel_left_eq] at same
    exact before.ne same

/-- The order is not that of the paths as texts: the content of the folder `a` stands before
the file `a.py`, whose path is less. -/
theorem sourceFiles_in_order_by_names :
    let system : FileSystem :=
      { root := .folder [("p", .folder
          [("a.py", .file (.text "")), ("a", .folder [("x.py", .file (.text ""))])])] }
    ∃ relative : List (List String),
      system.sourceFiles {} ["missing", "p"] = relative.map (pathBelow "p") ∧
        ["a", "x.py"] ∈ relative ∧ ["a.py"] ∈ relative ∧ relative.Pairwise ComesBefore ∧
        ComesBefore ["a", "x.py"] ["a.py"] ∧ "p/a.py" < "p/a/x.py" := by
  intro system
  have wellFormed : system.root.WellFormed := by
    refine .folder _ (by decide) (by decide) ?_
    simp only [List.forall_mem_singleton]
    refine .folder _ (by decide) (by decide) ?_
    simp only [List.forall_mem_cons, List.not_mem_nil, false_imp_iff, implies_true, and_true]
    refine ⟨.file _, .folder _ (by decide) (by decide) ?_⟩
    simp only [List.forall_mem_singleton]
    exact .file _
  have missing : system.pathExists "missing" = false := by
    decide +kernel
  have spared (names : List String) : ∀ name ∈ names, Exclusion.Spares {} name := by
    simp [Exclusion.Spares]
  obtain ⟨single, nowhere, ordered⟩ := sourceFiles_in_order {} wellFormed
  obtain ⟨relative, collected, walk, _, increasing, _⟩ :=
    ordered "p" ["p"] _ (by decide +kernel) rfl
  refine ⟨relative, ?_, ?_, ?_, increasing, .rel (Text.bytes_lt_bytes (by decide)), by decide⟩
  · rw [single, List.map_cons, nowhere "missing" missing, List.map_singleton, collected]
    simp
  · exact (walk _).mpr ⟨⟨.text "", rfl⟩, ⟨["a"], "x", by decide, rfl⟩, spared _⟩
  · exact (walk _).mpr ⟨⟨.text "", rfl⟩, ⟨[], "a", by decide, rfl⟩, spared _⟩

end DecoratorLint
