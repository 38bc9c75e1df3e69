import DecoratorLint.Config.Load
import Mathlib.Data.List.Basic

/-!
# Reading a configuration

A file that states a configuration is read with it, provided the ids in it are ids;
otherwise the first that is none is told.  The search for a file looks into each one
before it takes it, so that hardly anything can be wrong with a file that is found:
reading it again gives the same as reading it by its name, and fails only for what the
section holds.
-/

namespace DecoratorLint

theorem map_eq_ok_iff {ε α β : Type} {result : Except ε α} {change : α → β} {changed : β} :
    result.map change = .ok changed ↔ ∃ value, result = .ok value ∧ change value = changed := by
  cases result <;> simp [Except.map]

/-! ## Ids -/

namespace RuleSpec

/-- A text is an id: its first character is an uppercase letter, and all that follow are
uppercase letters and digits. -/
def IsRuleId (text : String) : Prop :=
  ∃ first rest, text.toList = first :: rest ∧ ('A' ≤ first ∧ first ≤ 'Z') ∧
    ∀ char ∈ rest, ('A' ≤ char ∧ char ≤ 'Z') ∨ ('0' ≤ char ∧ char ≤ '9')

theorem isId_iff {text : String} : isId text = true ↔ IsRuleId text := by
  have upper (char : Char) : char.isUpper = true ↔ 'A' ≤ char ∧ char ≤ 'Z' :=
    decide_eq_true_iff
  have digit (char : Char) : char.isDigit = true ↔ '0' ≤ char ∧ char ≤ '9' := by
    simp [Char.isDigit, Char.le_def]
  rw [isId, IsRuleId]
  cases text.toList with
  | nil => simp
  | cons first rest => simp [isIdChar, upper, digit]

theorem isRuleId_defaultId : IsRuleId defaultId :=
  isId_iff.mp isId_defaultId

theorem hasValidId_iff {spec : RuleSpec} : spec.hasValidId = true ↔ IsRuleId spec.ruleId :=
  isId_iff

end RuleSpec

namespace Config

open RuleSpec (IsRuleId)

/-- The first specification of a configuration whose id is none. -/
def FirstInvalid (config : Config) (spec : RuleSpec) : Prop :=
  ∃ before after, config.required = before ++ spec :: after ∧
    (∀ earlier ∈ before, IsRuleId earlier.ruleId) ∧ ¬ IsRuleId spec.ruleId

theorem invalidId?_eq_none_iff {config : Config} :
    config.invalidId? = none ↔ ∀ spec ∈ config.required, IsRuleId spec.ruleId := by
  simp [invalidId?, RuleSpec.hasValidId_iff]

theorem invalidId?_eq_some_iff {config : Config} {id : String} :
    config.invalidId? = some id ↔ ∃ spec, config.FirstInvalid spec ∧ spec.ruleId = id := by
  rw [invalidId?, Option.map_eq_some_iff]
  simp only [List.find?_eq_some_iff_append, Bool.not_eq_true', Bool.not_not,
    ← Bool.not_eq_true, RuleSpec.hasValidId_iff, FirstInvalid]
  constructor
  · rintro ⟨spec, ⟨invalid, before, after, shape, valid⟩, named⟩
    exact ⟨spec, ⟨before, after, shape, valid, invalid⟩, named⟩
  · rintro ⟨spec, ⟨before, after, shape, valid, invalid⟩, named⟩
    exact ⟨spec, ⟨invalid, before, after, shape, valid⟩, named⟩

theorem exists_firstInvalid {config : Config}
    (invalid : ∃ spec ∈ config.required, ¬ IsRuleId spec.ruleId) :
    ∃ spec, config.FirstInvalid spec := by
  cases checked : config.invalidId? with
  | none =>
      obtain ⟨spec, member, wrong⟩ := invalid
      exact absurd (invalidId?_eq_none_iff.mp checked spec member) wrong
  | some id =>
      obtain ⟨spec, first, _⟩ := invalidId?_eq_some_iff.mp checked
      exact ⟨spec, first⟩

/-! ## Files that are read -/

/-- The file at a path can be read and is a document, and this is its section. -/
def HoldsSection (system : FileSystem) (path : String) (value : Toml) : Prop :=
  ∃ text document, system.read path = .ok text ∧
    Toml.parse? text.toList = some document ∧ section? document = some value

theorem sectionAt?_eq_some_iff {system : FileSystem} {path : String} {value : Toml} :
    sectionAt? system path = some value ↔ HoldsSection system path value := by
  rw [sectionAt?, HoldsSection]
  cases system.read path with
  | error cause => simp
  | ok text => simp [Option.bind_eq_some_iff]

/-- What comes of a section in the file at a path: a configuration in which all ids are
ids, or a complaint about its shape or about the first id that is none. -/
inductive Judged (path : String) (value : Toml) : Except ConfigError Config → Prop where
  | accepted {config : Config} (shaped : ofSection? value = some config)
      (valid : ∀ spec ∈ config.required, IsRuleId spec.ruleId) : Judged path value (.ok config)
  | misshapen (shapeless : ofSection? value = none) :
      Judged path value (.error (.invalidDocument path))
  | invalidId {config : Config} {spec : RuleSpec} (shaped : ofSection? value = some config)
      (first : config.FirstInvalid spec) : Judged path value (.error (.invalidRuleId spec.ruleId))

theorem HoldsSection.readFrom_of_ofSection? {system : FileSystem} {path : String} {value : Toml}
    {config : Config} (holds : HoldsSection system path value)
    (shaped : ofSection? value = some config) :
    readFrom system path =
      match config.invalidId? with
      | some id => .error (.invalidRuleId id)
      | none => .ok config := by
  obtain ⟨text, document, readable, parsed, found⟩ := holds
  cases checked : config.invalidId? <;>
    simp only [readFrom, readable, ofText, parsed, found, shaped, checked]

/-- A file with a section is judged by what the section holds. -/
theorem HoldsSection.judged {system : FileSystem} {path : String} {value : Toml}
    (holds : HoldsSection system path value) : Judged path value (readFrom system path) := by
  cases shaped : ofSection? value with
  | none =>
      obtain ⟨text, document, readable, parsed, found⟩ := holds
      simp only [readFrom, readable, ofText, parsed, found, shaped]
      exact .misshapen shaped
  | some config =>
      rw [holds.readFrom_of_ofSection? shaped]
      cases checked : config.invalidId? with
      | none => exact .accepted shaped (invalidId?_eq_none_iff.mp checked)
      | some id =>
          obtain ⟨spec, first, rfl⟩ := invalidId?_eq_some_iff.mp checked
          exact .invalidId shaped first

/-- A file that can be read as a configuration states it in its section. -/
theorem exists_holdsSection_of_readFrom {system : FileSystem} {path : String}
    {config : Config} (read : readFrom system path = .ok config) :
    ∃ value, HoldsSection system path value ∧ ofSection? value = some config := by
  rw [readFrom] at read
  split at read
  · contradiction
  · rename_i text readable
    rw [ofText] at read
    split at read
    · contradiction
    · rename_i document parsed
      split at read
      · contradiction
      · rename_i value found
        split at read
        · contradiction
        · rename_i stated shaped
          split at read
          · contradiction
          · cases read
            exact ⟨value, ⟨text, document, readable, parsed, found⟩, shaped⟩

theorem pathExists_of_read {system : FileSystem} {path text : String}
    (readable : system.read path = .ok text) : system.pathExists path = true := by
  rw [FileSystem.read] at readable
  rw [FileSystem.pathExists]
  cases found : system.find path with
  | error cause =>
      rw [found] at readable
      contradiction
  | ok tree => rfl

theorem load_of_loadPath {system : FileSystem} {named : Option String} {path : String}
    (located : loadPath system named = .ok (some path)) :
    load system named = (readFrom system path).map some := by
  rw [load, located]
  rfl

/-- A file with a section is loaded by its name. -/
theorem load_of_holdsSection {system : FileSystem} {path : String} {value : Toml}
    (holds : HoldsSection system path value) :
    load system (some path) = (readFrom system path).map some := by
  obtain ⟨text, document, readable, _⟩ := holds
  apply load_of_loadPath
  rw [loadPath, if_pos (pathExists_of_read readable)]

/-- A configuration is loaded from the file that is to be read. -/
theorem load_eq_ok_some_iff {system : FileSystem} {named : Option String} {config : Config} :
    load system named = .ok (some config) ↔
      ∃ path, loadPath system named = .ok (some path) ∧ readFrom system path = .ok config := by
  constructor
  · intro loaded
    cases located : loadPath system named with
    | error cause =>
        rw [load, located] at loaded
        cases loaded
    | ok found =>
        cases found with
        | none =>
            rw [load, located] at loaded
            cases loaded
        | some path =>
            rw [load_of_loadPath located, map_eq_ok_iff] at loaded
            obtain ⟨stated, read, same⟩ := loaded
            cases same
            exact ⟨path, rfl, read⟩
  · rintro ⟨path, located, read⟩
    rw [load_of_loadPath located, read]
    rfl

/-! ## Files that are found -/

/-- From a current folder that is there, what is found is loaded. -/
theorem load_none {system : FileSystem}
    (present : ∃ entries, system.root.at? system.current = some (.folder entries)) :
    load system none =
      match discover? system system.currentPath with
      | none => .ok none
      | some path => (readFrom system path).map some := by
  have located : loadPath system none = .ok (discover? system system.currentPath) := by
    rw [loadPath, FileSystem.findCurrent_of_present present]
  rw [load, located]
  cases discover? system system.currentPath <;> rfl

/-- From a current folder that was taken away, nothing is loaded. -/
theorem load_none_of_lost {system : FileSystem}
    (lost : ∀ entries, system.root.at? system.current ≠ some (.folder entries)) :
    load system none = .error (.unreadable "." (.file .notFound)) := by
  rw [load, loadPath, FileSystem.findCurrent_of_lost lost]
  rfl

/-- The search looks into a file before it takes it. -/
theorem holdsSection_of_discover? {system : FileSystem} {start path : String}
    (found : discover? system start = some path) : ∃ value, HoldsSection system path value := by
  rw [discover?] at found
  have present := List.find?_some found
  obtain ⟨value, held⟩ := Option.isSome_iff_exists.mp present
  exact ⟨value, sectionAt?_eq_some_iff.mp held⟩

/-- Searching from the current folder and loading agree.  Nothing is loaded exactly when no
file is found; a file that is found is loaded as if it had been named, and what comes of it is
decided by its section alone: it can be read, it is a document, and it has the section. -/
theorem load_agrees_with_search {system : FileSystem}
    (present : ∃ entries, system.root.at? system.current = some (.folder entries)) :
    (load system none = .ok none ↔ discover? system system.currentPath = none) ∧
    ∀ path, discover? system system.currentPath = some path →
      load system none = load system (some path) ∧
      ∃ value result, HoldsSection system path value ∧ Judged path value result ∧
        load system none = result.map some := by
  constructor
  · rw [load_none present]
    cases discover? system system.currentPath with
    | none => simp
    | some path => cases result : readFrom system path <;> simp [result, Except.map]
  · intro path found
    obtain ⟨value, holds⟩ := holdsSection_of_discover? found
    have loaded : load system none = (readFrom system path).map some := by
      rw [load_none present, found]
    exact ⟨loaded.trans (load_of_holdsSection holds).symm, value, _, holds, holds.judged, loaded⟩

/-- A nearer file that is no document is passed over.  The one that is found is loaded, and
what is wrong with it, a table where a list should be, is told under its path. -/
theorem load_agrees_with_search_above_broken_file :
    let system : FileSystem :=
      { root := .folder
          [("pyproject.toml", .file (.text "[tool.annotation-lint.disable]")),
            ("a", .folder [("pyproject.toml", .file (.text "[tool"))])]
        current := ["a"] }
    (∃ entries, system.root.at? system.current = some (.folder entries)) ∧
      discover? system system.currentPath = some "/pyproject.toml" ∧
      load system none = load system (some "/pyproject.toml") ∧
      load system none = .error (.invalidDocument "/pyproject.toml") := by
  intro system
  have present : ∃ entries, system.root.at? system.current = some (.folder entries) :=
    ⟨_, rfl⟩
  have found : discover? system system.currentPath = some "/pyproject.toml" := by
    decide +kernel
  have held : (sectionAt? system "/pyproject.toml").map ofSection? = some none := by
    decide +kernel
  obtain ⟨same, value, result, holds, judged, loaded⟩ :=
    (load_agrees_with_search present).2 "/pyproject.toml" found
  have shapeless : ofSection? value = none := by
    simpa [sectionAt?_eq_some_iff.mpr holds] using held
  refine ⟨present, found, same, ?_⟩
  cases judged with
  | accepted shaped _ =>
      rw [shapeless] at shaped
      cases shaped
  | misshapen _ => exact loaded
  | invalidId shaped _ =>
      rw [shapeless] at shaped
      cases shaped

end Config

end DecoratorLint
