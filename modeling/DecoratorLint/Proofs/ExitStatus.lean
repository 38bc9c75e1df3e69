import DecoratorLint.Command.Run
import DecoratorLint.Proofs.ConfigReading
import DecoratorLint.Proofs.Directive
import DecoratorLint.Proofs.Disabling
import DecoratorLint.Proofs.Sighting

/-!
# The exit status

How a run ends is decided by what it is given: by the configuration and the log file,
which can make it fail, and by the errors in the files that are collected.  What a run
says, and how, has no part in it.
-/

namespace DecoratorLint

open Source (Stmt Expr Place decoratorAt?)

/-! ## Errors in files -/

/-- A file has an error: it can be read, no line takes it out, and it is a program with a
decorator in it that gives fewer required names than a rule of that severity demands, on
a line on which the rule is not suppressed. -/
inductive HasError (system : FileSystem) (rules : List Rule) (path : String) : Prop where
  | intro {source : String} {program : List Stmt} {place : Place} {decorator : Expr} {use : Use}
      {rule : Rule}
      (readable : system.read path = .ok source)
      (unskipped : ∀ line ∈ Text.lines source.toList, Suppression.isFileDirective line = false)
      (parsed : Source.parse? source.toList = some program)
      (occurs : decoratorAt? program place = some decorator)
      (lowers : Use.ofDecorator? decorator = some use)
      (active : rule ∈ rules)
      (severe : rule.severity = .error)
      (named : rule.target = some use.simpleName)
      (short : rule.foundCount use < rule.required.length)
      (heard : (Suppression.ofSource source.toList).suppresses
        (Text.lineOfOffset source.toList decorator.start) rule.id = false) :
      HasError system rules path

/-- What a rule finds in a use that falls short of what it demands. -/
theorem Rule.violation?_eq_some_iff {rule : Rule} {path : String} {source : List Char} {use : Use}
    {violation : Violation} :
    rule.violation? path source use = some violation ↔
      rule.target = some use.simpleName ∧ rule.foundCount use < rule.required.length ∧
        violation =
          { ruleId := rule.id
            message := rule.message
            offset := use.offset
            line := Text.lineOfOffset source use.offset
            path
            severity := rule.severity } := by
  rw [violation?, Option.map_eq_some_iff]
  constructor
  · rintro ⟨text, verdict, rfl⟩
    obtain ⟨named, short, rfl⟩ := verdict?_eq_some_iff.mp verdict
    exact ⟨named, short, rfl⟩
  · rintro ⟨named, short, rfl⟩
    exact ⟨rule.message, verdict?_eq_some_iff.mpr ⟨named, short, rfl⟩, rfl⟩

/-- Only the text of a file that can be read, does not take itself out and is a program has
violations. -/
theorem mem_violations_lintFile_iff {system : FileSystem} {rules : List Rule} {path : String}
    {violation : Violation} :
    violation ∈ (lintFile system rules path).violations ↔
      ∃ source program, system.read path = .ok source ∧
        (∀ line ∈ Text.lines source.toList, Suppression.isFileDirective line = false) ∧
          Source.parse? source.toList = some program ∧
            violation ∈ programViolations path source.toList rules
              (Suppression.ofSource source.toList) program := by
  rw [lintFile]
  cases readable : system.read path with
  | error cause => simp [FileReport.violations]
  | ok source =>
      simp only [mem_violations_lintSource_iff, Suppression.skipsFile_ofSource_eq_false_iff]
      constructor
      · rintro ⟨unskipped, program, parsed, found⟩
        exact ⟨source, program, rfl, unskipped, parsed, found⟩
      · rintro ⟨other, program, same, unskipped, parsed, found⟩
        cases same
        exact ⟨unskipped, program, parsed, found⟩

theorem exists_error_iff {system : FileSystem} {rules : List Rule} {path : String} :
    (∃ violation ∈ (lintFile system rules path).violations, violation.severity = .error) ↔
      HasError system rules path := by
  constructor
  · rintro ⟨violation, member, severe⟩
    obtain ⟨source, program, readable, unskipped, parsed, found⟩ :=
      mem_violations_lintFile_iff.mp member
    obtain ⟨place, decorator, use, rule, occurs, lowers, active, complains, heard⟩ :=
      mem_programViolations_iff.mp found
    obtain ⟨named, short, rfl⟩ := Rule.violation?_eq_some_iff.mp complains
    rw [(Use.of_ofDecorator?_eq_some lowers).2] at heard
    exact .intro readable unskipped parsed occurs lowers active severe named short heard
  · rintro ⟨readable, unskipped, parsed, occurs, lowers, active, severe, named, short, heard⟩
    rename_i source program place decorator use rule
    rw [← (Use.of_ofDecorator?_eq_some lowers).2] at heard
    have complains : rule.violation? path source.toList use = some _ :=
      Rule.violation?_eq_some_iff.mpr ⟨named, short, rfl⟩
    have found := mem_programViolations_iff.mpr
      ⟨place, decorator, use, rule, occurs, lowers, active, complains, heard⟩
    exact ⟨_, mem_violations_lintFile_iff.mpr ⟨source, program, readable, unskipped, parsed, found⟩,
      severe⟩

/-- Errors are counted exactly when a file has one. -/
theorem countOf_error_pos_iff {system : FileSystem} {rules : List Rule} {files : List String} :
    0 < countOf (lintFiles system rules files) .error ↔
      ∃ path ∈ files, HasError system rules path := by
  rw [countOf_eq_countP, List.countP_pos_iff, allViolations, lintFiles, List.flatMap_map]
  simp only [List.mem_flatMap, decide_eq_true_eq, ← exists_error_iff]
  constructor
  · rintro ⟨violation, ⟨path, listed, found⟩, severe⟩
    exact ⟨path, listed, violation, found, severe⟩
  · rintro ⟨path, listed, violation, found, severe⟩
    exact ⟨violation, ⟨path, listed, found⟩, severe⟩

/-! ## Failures -/

/-- The rules of a run. -/
def Options.rules (options : Options) (config : Option Config) : List Rule :=
  activeRules (options.settings config).required (options.settings config).disable

/-- The files of a run. -/
def Options.files (options : Options) (config : Option Config) (system : FileSystem) :
    List String :=
  system.sourceFiles (options.settings config).exclusion options.paths

/-- A log file is given, and it cannot be opened or the record of the run cannot be added
to it. -/
def LogRefused (moment : Int) (options : Options) (rules : List Rule)
    (reports : List FileReport) (system : FileSystem) : Prop :=
  ∃ path, options.logFile = some path ∧
    ((∃ cause, LogFile.openAt system path = .error cause) ∨
      ∃ opened file cause, LogFile.openAt system path = .ok (opened, file) ∧
        file.write opened (RunRecord.ofReports moment system reports (ruleIds rules)) =
          .error cause)

/-- What makes a run fail: its configuration, unless it is switched off, or its log when
there are rules and files. -/
inductive Fails (moment : Int) (options : Options) (system : FileSystem) : Prop where
  | config {cause : ConfigError} (wanted : options.noConfig = false)
      (refused : Config.load system options.config = .error cause) : Fails moment options system
  | log {config : Option Config} (loaded : options.loadConfig system = .ok config)
      (someRule : options.rules config ≠ []) (someFile : options.files config system ≠ [])
      (refused : LogRefused moment options (options.rules config)
        (lintFiles system (options.rules config) (options.files config system)) system) :
      Fails moment options system

/-- With the configuration switched off and without a log file nothing can fail. -/
theorem not_fails_of_idle {moment : Int} {options : Options} {system : FileSystem}
    (unconfigured : options.noConfig = true) (unlogged : options.logFile = none) :
    ¬ Fails moment options system := by
  rintro (⟨wanted, _⟩ | ⟨_, _, _, path, given, _⟩)
  · rw [unconfigured] at wanted
    cases wanted
  · rw [unlogged] at given
    cases given

/-- A run that has to search for its configuration fails when the current folder was taken
away. -/
theorem fails_of_lost {moment : Int} {options : Options} {system : FileSystem}
    (wanted : options.noConfig = false) (unnamed : options.config = none)
    (lost : ∀ entries, system.root.at? system.current ≠ some (.folder entries)) :
    Fails moment options system := by
  have refused :
      Config.load system options.config = .error (.unreadable "." (.file .notFound)) := by
    rw [unnamed, Config.load_none_of_lost lost]
  exact .config wanted refused

theorem loadConfig_eq_error_iff {options : Options} {system : FileSystem} {cause : ConfigError} :
    options.loadConfig system = .error cause ↔
      options.noConfig = false ∧ Config.load system options.config = .error cause := by
  rw [Options.loadConfig]
  cases options.noConfig <;> simp

theorem writeLog_eq_error_iff {moment : Int} {options : Options} {rules : List Rule}
    {reports : List FileReport} {system : FileSystem} :
    (∃ cause, (Run.writeLog moment options rules reports system).1 = .error cause) ↔
      LogRefused moment options rules reports system := by
  rw [Run.writeLog, LogRefused]
  cases options.logFile with
  | none => simp
  | some path =>
      simp only [Option.some.injEq, exists_eq_left']
      cases LogFile.openAt system path with
      | error cause => simp
      | ok result =>
          obtain ⟨opened, file⟩ := result
          cases written : file.write opened
              (RunRecord.ofReports moment system reports (ruleIds rules)) <;>
            simp [written]

/-- A log is kept when none is asked for, or when the record of the run is added to it. -/
theorem writeLog_eq_ok_iff {moment : Int} {options : Options} {rules : List Rule}
    {reports : List FileReport} {system left : FileSystem} {notices : List Notice} :
    Run.writeLog moment options rules reports system = (.ok notices, left) ↔
      options.logFile = none ∧ notices = [] ∧ left = system ∨
        ∃ path opened file, options.logFile = some path ∧
          LogFile.openAt system path = .ok (opened, file) ∧
          file.write opened (RunRecord.ofReports moment system reports (ruleIds rules)) =
            .ok left ∧
          notices = Notice.ofLines (findingsOf system reports).2 := by
  rw [Run.writeLog]
  cases options.logFile with
  | none => simp [eq_comm]
  | some path =>
      cases opens : LogFile.openAt system path with
      | error cause => simp [opens]
      | ok result =>
          obtain ⟨opened, file⟩ := result
          cases written : file.write opened
              (RunRecord.ofReports moment system reports (ruleIds rules)) <;>
            simp [opens, written, and_comm, eq_comm]

theorem LogFile.write_eq_error_iff {file : LogFile} {system : FileSystem} {record : RunRecord}
    {cause : FileError} :
    file.write system record = .error cause ↔ system.full = true ∧ cause = .noSpace := by
  rw [write]
  split
  · rename_i full
    simp [full, eq_comm]
  · rename_i room
    simp [room]

/-- A log is refused for what is in the files, whatever the record. -/
theorem logRefused_iff {moment : Int} {options : Options} {rules : List Rule}
    {reports : List FileReport} {system : FileSystem} :
    LogRefused moment options rules reports system ↔
      ∃ path, options.logFile = some path ∧
        ((∃ cause, LogFile.openAt system path = .error cause) ∨
          ∃ opened file, LogFile.openAt system path = .ok (opened, file) ∧ opened.full = true) := by
  simp only [LogRefused, LogFile.write_eq_error_iff, exists_and_left, exists_eq, and_true]

/-- Whether a run fails has nothing to do with when it is, nor with how it reports. -/
theorem fails_styled_iff {moment other : Int} {options : Options} {system : FileSystem}
    {format : ReportFormat} {verbose : Bool} :
    Fails other { options with format, verbose } system ↔ Fails moment options system := by
  constructor
  · rintro (⟨wanted, refused⟩ | ⟨loaded, someRule, someFile, refused⟩)
    · exact .config wanted refused
    · exact .log loaded someRule someFile (logRefused_iff.mpr (logRefused_iff.mp refused))
  · rintro (⟨wanted, refused⟩ | ⟨loaded, someRule, someFile, refused⟩)
    · exact .config wanted refused
    · exact .log loaded someRule someFile (logRefused_iff.mpr (logRefused_iff.mp refused))

/-! ## Endings -/

namespace Run

theorem outputLines_eq_nil_iff {run : Run} :
    run.outputLines = [] ↔ ∀ line, .report line ∉ run.messages := by
  rw [outputLines, List.filterMap_eq_nil_iff]
  constructor
  · intro silent line member
    exact absurd (silent _ member) (by simp)
  · intro silent message member
    cases message with
    | report line => exact absurd member (silent line)
    | notice notice => rfl
    | remark line => rfl

theorem ending_check (moment : Int) (coloured : Bool) (options : Options) (rules : List Rule)
    (files : List String) (system : FileSystem) :
    (check moment coloured options rules files system).ending =
      match (writeLog moment options rules (lintFiles system rules files) system).1 with
      | .error cause => .failed cause
      | .ok _ => endingOf (lintFiles system rules files) := by
  rw [check]
  split <;> rename_i written <;> rw [written]

/-- A run that cannot keep its record reports nothing. -/
theorem report_not_mem_check {moment : Int} {coloured : Bool} {options : Options}
    {rules : List Rule} {files : List String} {system : FileSystem} {cause : RunError}
    (failed : (check moment coloured options rules files system).ending = .failed cause)
    (line : String) :
    .report line ∉ (check moment coloured options rules files system).messages := by
  rw [check] at failed ⊢
  split at failed
  · simp
  · simp only [endingOf] at failed
    split at failed <;> contradiction

theorem ending_withConfig (moment : Int) (coloured : Bool) (options : Options)
    (config : Option Config) (system : FileSystem) :
    (withConfig moment coloured options config system).ending =
      if options.rules config = [] ∨ options.files config system = [] then .passed
      else (check moment coloured options (options.rules config) (options.files config system)
        system).ending := by
  rw [Options.rules, Options.files]
  simp only [withConfig, List.isEmpty_iff]
  split
  · rename_i noRule
    rw [if_pos (.inl noRule)]
  · rename_i someRule
    split
    · rename_i noFile
      rw [if_pos (.inr noFile)]
    · rename_i someFile
      rw [if_neg (not_or.mpr ⟨someRule, someFile⟩)]

theorem report_not_mem_withConfig {moment : Int} {coloured : Bool} {options : Options}
    {config : Option Config} {system : FileSystem} {cause : RunError}
    (failed : (withConfig moment coloured options config system).ending = .failed cause)
    (line : String) :
    .report line ∉ (withConfig moment coloured options config system).messages := by
  simp only [withConfig] at failed ⊢
  split at failed
  · contradiction
  · rename_i someRule
    split at failed
    · contradiction
    · rename_i someFile
      rw [if_neg someRule, if_neg someFile]
      simpa using report_not_mem_check failed line

end Run

theorem ending_run (moment : Int) (coloured : Bool) (options : Options) (system : FileSystem) :
    (run moment coloured options system).ending =
      match options.loadConfig system with
      | .error cause => .failed (.config cause)
      | .ok config => (Run.withConfig moment coloured options config system).ending := by
  rw [run]
  cases options.loadConfig system <;> rfl

theorem outputLines_run_of_failed {moment : Int} {coloured : Bool} {options : Options}
    {system : FileSystem} {cause : RunError}
    (failed : (run moment coloured options system).ending = .failed cause) :
    (run moment coloured options system).outputLines = [] := by
  rw [Run.outputLines_eq_nil_iff]
  intro line
  rw [run] at failed ⊢
  cases loaded : options.loadConfig system with
  | error cause => simp
  | ok config =>
      rw [loaded] at failed
      simpa using Run.report_not_mem_withConfig failed line

/-- Some file of a run has an error. -/
def FindsError (options : Options) (system : FileSystem) : Prop :=
  ∃ config, options.loadConfig system = .ok config ∧
    ∃ path ∈ options.files config system, HasError system (options.rules config) path

section Loaded

variable {moment : Int} {options : Options} {system : FileSystem} {config : Option Config}
  (loaded : options.loadConfig system = .ok config)

include loaded

theorem fails_iff_of_loaded :
    Fails moment options system ↔
      (options.rules config ≠ [] ∧ options.files config system ≠ []) ∧
        LogRefused moment options (options.rules config)
          (lintFiles system (options.rules config) (options.files config system)) system := by
  constructor
  · intro fails
    cases fails with
    | config wanted refused =>
        have failed := loadConfig_eq_error_iff.mpr ⟨wanted, refused⟩
        rw [loaded] at failed
        cases failed
    | log again someRule someFile refused =>
        rw [loaded, Except.ok.injEq] at again
        subst again
        exact ⟨⟨someRule, someFile⟩, refused⟩
  · rintro ⟨⟨someRule, someFile⟩, refused⟩
    exact .log loaded someRule someFile refused

theorem findsError_iff_of_loaded :
    FindsError options system ↔
      0 < countOf (lintFiles system (options.rules config) (options.files config system))
        .error := by
  rw [countOf_error_pos_iff, FindsError, loaded]
  simp

end Loaded

theorem countOf_lintFiles_of_idle {rules : List Rule} {files : List String}
    (idle : rules = [] ∨ files = []) (system : FileSystem) :
    ¬ 0 < countOf (lintFiles system rules files) .error := by
  rw [countOf_error_pos_iff]
  rintro ⟨path, listed, ⟨_, _, _, _, _, active, _⟩⟩
  rcases idle with rfl | rfl
  · cases active
  · cases listed

/-- How a run ends. -/
theorem ending_run_cases (moment : Int) (coloured : Bool) (options : Options)
    (system : FileSystem) :
    (∃ cause, Fails moment options system ∧
        (run moment coloured options system).ending = .failed cause) ∨
      ¬ Fails moment options system ∧ FindsError options system ∧
        (run moment coloured options system).ending = .violated ∨
      ¬ Fails moment options system ∧ ¬ FindsError options system ∧
        (run moment coloured options system).ending = .passed := by
  rw [ending_run]
  cases loaded : options.loadConfig system with
  | error cause =>
      obtain ⟨wanted, refused⟩ := loadConfig_eq_error_iff.mp loaded
      exact .inl ⟨.config cause, .config wanted refused, rfl⟩
  | ok config =>
      rw [fails_iff_of_loaded loaded, findsError_iff_of_loaded loaded]
      simp only [Run.ending_withConfig]
      by_cases idle : options.rules config = [] ∨ options.files config system = []
      · rw [if_pos idle]
        refine .inr (.inr ⟨?_, countOf_lintFiles_of_idle idle system, rfl⟩)
        rintro ⟨⟨someRule, someFile⟩, _⟩
        exact idle.elim someRule someFile
      · rw [if_neg idle, Run.ending_check, ← writeLog_eq_error_iff]
        cases written : (Run.writeLog moment options (options.rules config)
            (lintFiles system (options.rules config) (options.files config system)) system).1 with
        | error cause => exact .inl ⟨cause, ⟨not_or.mp idle, cause, rfl⟩, rfl⟩
        | ok logging =>
            simp only [reduceCtorEq, exists_false, and_false, not_false_eq_true, true_and,
              false_and, false_or, Run.endingOf]
            split
            · rename_i some
              exact .inl ⟨some, rfl⟩
            · rename_i none
              exact .inr ⟨none, rfl⟩

open scoped Classical in
theorem status_ending_run (moment : Int) (coloured : Bool) (options : Options)
    (system : FileSystem) :
    (run moment coloured options system).ending.status =
      if Fails moment options system then 2
      else if FindsError options system then 1
      else 0 := by
  rcases ending_run_cases moment coloured options system with
    ⟨cause, fails, ending⟩ | ⟨fine, finds, ending⟩ | ⟨fine, clean, ending⟩
  · rw [ending, if_pos fails, Ending.status]
  · rw [ending, if_neg fine, if_pos finds, Ending.status]
  · rw [ending, if_neg fine, if_neg clean, Ending.status]

/-- The exit status of a run: two exactly when the run fails, and then nothing is reported;
otherwise one when a file has an error, and zero when none has.  Neither the format of the
report nor its verbosity, its colours or its time change it. -/
theorem status_run (moment : Int) (coloured : Bool) (options : Options) (system : FileSystem) :
    let ended := run moment coloured options system
    (ended.ending.status = 2 ↔ Fails moment options system) ∧
    (ended.ending.status = 1 ↔ ¬ Fails moment options system ∧ FindsError options system) ∧
    (ended.ending.status = 0 ↔ ¬ Fails moment options system ∧ ¬ FindsError options system) ∧
    (Fails moment options system → ended.outputLines = []) ∧
    ∀ other painted format verbose,
      (run other painted { options with format, verbose } system).ending.status =
        ended.ending.status := by
  classical
  intro ended
  have status : ended.ending.status = _ := status_ending_run moment coloured options system
  refine ⟨?_, ?_, ?_, ?_, ?_⟩
  · rw [status]
    grind
  · rw [status]
    grind
  · rw [status]
    grind
  · intro fails
    rcases ending_run_cases moment coloured options system with ⟨cause, _, failed⟩ | ⟨fine, _⟩ |
      ⟨fine, _⟩
    · exact outputLines_run_of_failed failed
    · exact absurd fails fine
    · exact absurd fails fine
  · intro other painted format verbose
    have finding : FindsError { options with format, verbose } system ↔
        FindsError options system := Iff.rfl
    rw [status, status_ending_run]
    exact if_congr fails_styled_iff rfl (if_congr finding rfl rfl)

/-- A file with an error, checked without a log file and with one that cannot be made, since
its path leads through that file; and checked after the current folder was taken away, without
a configuration and with the search for one. -/
theorem status_run_with_refused_log :
    let system : FileSystem := { root := .folder [("a.py", .file (.text "@job\ndef f(): x\n"))] }
    let options : Options :=
      { noConfig := true, require := [{ target := some "job", parameters := ["name"] }] }
    let logging : Options := { options with logFile := some "a.py/log" }
    let lost : FileSystem := { system with current := ["gone"] }
    let absolute : Options := { options with paths := ["/a.py"] }
    let searching : Options := { absolute with noConfig := false }
    (run 0 false options system).ending.status = 1 ∧
      (run 0 false logging system).ending.status = 2 ∧
        (run 0 false logging system).outputLines = [] ∧
      (run 0 false absolute lost).ending.status = 1 ∧
        (run 0 false searching lost).ending.status = 2 ∧
          (run 0 false searching lost).outputLines = [] := by
  intro system options logging lost absolute searching
  have fine : ¬ Fails 0 options system := not_fails_of_idle rfl rfl
  have finds : FindsError options system :=
    ⟨none, rfl, "./a.py", by decide +kernel, exists_error_iff.mp (by decide +kernel)⟩
  have refused : ∃ cause, LogFile.openAt system "a.py/log" = .error cause := by
    have nothing : (LogFile.openAt system "a.py/log").toOption.isNone = true := by
      decide +kernel
    cases opened : LogFile.openAt system "a.py/log" with
    | error cause => exact ⟨cause, rfl⟩
    | ok result => simp [opened, Except.toOption] at nothing
  have loaded : logging.loadConfig system = .ok none := rfl
  have fails : Fails 0 logging system :=
    .log loaded (by decide) (by decide +kernel) ⟨"a.py/log", rfl, .inl refused⟩
  have absoluteFine : ¬ Fails 0 absolute lost := not_fails_of_idle rfl rfl
  have absoluteFinds : FindsError absolute lost :=
    ⟨none, rfl, "/a.py", by decide +kernel, exists_error_iff.mp (by decide +kernel)⟩
  have searchFails : Fails 0 searching lost := by
    refine fails_of_lost rfl rfl ?_
    rintro entries ⟨⟩
  obtain ⟨_, violated, _⟩ := status_run 0 false options system
  obtain ⟨failed, _, _, silent, _⟩ := status_run 0 false logging system
  obtain ⟨_, absoluteViolated, _⟩ := status_run 0 false absolute lost
  obtain ⟨searchFailed, _, _, searchSilent, _⟩ := status_run 0 false searching lost
  exact ⟨violated.mpr ⟨fine, finds⟩, failed.mpr fails, silent fails,
    absoluteViolated.mpr ⟨absoluteFine, absoluteFinds⟩, searchFailed.mpr searchFails,
    searchSilent searchFails⟩

end DecoratorLint
