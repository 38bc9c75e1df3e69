import DecoratorLint.Proofs.ExitStatus
import DecoratorLint.Proofs.ReportAgreement

/-!
# Rules in the record of a run

The record of a run names the rules that were active: each id once, in the order in which
the ids first occur.  Whatever the run finds was found by one of these rules, so the record
shows no violation of a rule that it does not name.
-/

namespace DecoratorLint

/-! ## Each id once -/

/-- Some texts are those of a list, each once, in the order in which they first occur
there. -/
structure EachOnce (once all : List String) : Prop where
  nodup : once.Nodup
  mem_iff : ∀ text, text ∈ once ↔ text ∈ all
  inOrder : once.Pairwise fun earlier later => all.idxOf earlier < all.idxOf later

namespace EachOnce

variable {once all : List String} {text : String}

theorem nil : EachOnce [] [] :=
  ⟨.nil, fun _ => Iff.rfl, .nil⟩

/-- What comes behind a list does not change where its texts first occur. -/
theorem inOrder_append (each : EachOnce once all) (behind : List String) :
    once.Pairwise fun earlier later =>
      (all ++ behind).idxOf earlier < (all ++ behind).idxOf later := by
  apply each.inOrder.imp_of_mem
  intro earlier later earlierIn laterIn less
  rw [List.idxOf_append_of_mem ((each.mem_iff earlier).mp earlierIn),
    List.idxOf_append_of_mem ((each.mem_iff later).mp laterIn)]
  exact less

theorem concat_of_mem (each : EachOnce once all) (known : text ∈ once) :
    EachOnce once (all ++ [text]) := by
  refine ⟨each.nodup, ?_, each.inOrder_append [text]⟩
  intro other
  rw [List.mem_append, List.mem_singleton, ← each.mem_iff]
  constructor
  · exact .inl
  · rintro (member | rfl)
    · exact member
    · exact known

theorem concat_of_not_mem (each : EachOnce once all) (new : text ∉ once) :
    EachOnce (once ++ [text]) (all ++ [text]) := by
  refine ⟨?_, ?_, ?_⟩
  · exact List.nodup_append_comm.mp (List.nodup_cons.mpr ⟨new, each.nodup⟩)
  · intro other
    rw [List.mem_append, List.mem_append, each.mem_iff]
  · rw [List.pairwise_append]
    refine ⟨each.inOrder_append [text], List.pairwise_singleton _ _, ?_⟩
    intro earlier earlierIn later laterIn
    rw [List.mem_singleton.mp laterIn]
    have before : earlier ∈ all := (each.mem_iff earlier).mp earlierIn
    have absent : text ∉ all := fun member => new ((each.mem_iff text).mpr member)
    calc
      (all ++ [text]).idxOf earlier = all.idxOf earlier := List.idxOf_append_of_mem before
      _ < all.length := List.idxOf_lt_length_of_mem before
      _ ≤ (all ++ [text]).idxOf text := by
        rw [List.idxOf_append_of_notMem absent]
        exact Nat.le_add_right _ _

end EachOnce

/-- The ids are collected from the rules, each once.  The induction is on the rules from the
last one backwards, as they are added. -/
theorem eachOnce_ruleIds (rules : List Rule) : EachOnce (ruleIds rules) (rules.map Rule.id) := by
  induction rules using List.reverseRecOn with
  | nil => exact .nil
  | append_singleton rules rule ih =>
      rw [ruleIds_concat, List.map_append, List.map_singleton]
      split
      · rename_i known
        exact ih.concat_of_mem known
      · rename_i new
        exact ih.concat_of_not_mem new

theorem id_mem_ruleIds {rules : List Rule} {rule : Rule} (member : rule ∈ rules) :
    rule.id ∈ ruleIds rules :=
  ((eachOnce_ruleIds rules).mem_iff rule.id).mpr (List.mem_map_of_mem member)

theorem id_not_mem_of_mem_activeRules {specs : List RuleSpec} {disabled : List String}
    {rule : Rule} (active : rule ∈ activeRules specs disabled) : rule.id ∉ disabled := by
  have kept := (List.mem_filter.mp active).2
  simp only [Bool.and_eq_true, Bool.not_eq_true', List.contains_eq_mem,
    decide_eq_false_iff_not] at kept
  exact kept.1

/-! ## The rules of violations -/

section Violations

variable {rules : List Rule} {violation : Violation}

/-- Wherever in a program a violation is found, one of the rules has found it. -/
theorem exists_rule_of_mem_programViolations {path : String} {source : List Char}
    {suppression : Suppression} {program : List Source.Stmt}
    (found : violation ∈ programViolations path source rules suppression program) :
    ∃ rule ∈ rules, rule.id = violation.ruleId := by
  obtain ⟨_, _, _, rule, -, -, member, complains, -⟩ := mem_programViolations_iff.mp found
  exact ⟨rule, member, (Rule.of_violation?_eq_some complains).1.symm⟩

theorem exists_rule_of_mem_lintSource {path source : String}
    (found : violation ∈ (lintSource path source rules).violations) :
    ∃ rule ∈ rules, rule.id = violation.ruleId := by
  obtain ⟨-, program, -, found⟩ := mem_violations_lintSource_iff.mp found
  exact exists_rule_of_mem_programViolations found

theorem exists_rule_of_mem_lintFiles {system : FileSystem} {paths : List String}
    (found : violation ∈ allViolations (lintFiles system rules paths)) :
    ∃ rule ∈ rules, rule.id = violation.ruleId := by
  obtain ⟨report, inReports, found⟩ := List.mem_flatMap.mp found
  obtain ⟨path, -, rfl⟩ := List.mem_map.mp inReports
  obtain ⟨_, _, -, -, -, found⟩ := mem_violations_lintFile_iff.mp found
  exact exists_rule_of_mem_programViolations found

/-- What is kept in a record was found by one of the rules, however the files have changed
since they were checked. -/
theorem exists_rule_of_mem_ofReports {moment : Int} {checked logged : FileSystem}
    {paths ids : List String} {entry : LoggedViolation}
    (kept : entry ∈
      (RunRecord.ofReports moment logged (lintFiles checked rules paths) ids).violations) :
    ∃ rule ∈ rules, rule.id = entry.ruleId := by
  rw [RunRecord.ofReports, findingsOf_eq, List.map_map] at kept
  obtain ⟨violation, found, rfl⟩ := List.mem_map.mp kept
  exact exists_rule_of_mem_lintFiles found

end Violations

/-! ## What a run adds to its log -/

namespace Run

/-- Checking changes no file but the log. -/
theorem system_check (moment : Int) (coloured : Bool) (options : Options) (rules : List Rule)
    (files : List String) (system : FileSystem) :
    (check moment coloured options rules files system).system =
      (writeLog moment options rules (lintFiles system rules files) system).2 := by
  rw [check]
  split <;> rename_i written <;> rw [written]

end Run

section Busy

variable {moment : Int} {coloured : Bool} {options : Options} {system : FileSystem}
  {config : Option Config} (loaded : options.loadConfig system = .ok config)
  (someRule : options.rules config ≠ []) (someFile : options.files config system ≠ [])

include loaded someRule someFile

/-- The files after a run that has rules and files to check. -/
theorem system_run_of_loaded :
    (run moment coloured options system).system =
      (Run.writeLog moment options (options.rules config)
        (lintFiles system (options.rules config) (options.files config system)) system).2 := by
  rw [Options.rules] at someRule
  rw [Options.files] at someFile
  rw [run, loaded]
  simp only [Run.withConfig, List.isEmpty_iff, if_neg someRule, if_neg someFile,
    Run.system_check]
  rfl

/-- Unless it fails, a run adds its record to the log file that is asked for, and this is all
that it does to the files. -/
theorem write_of_run {path : String} (asked : options.logFile = some path)
    (fine : ∀ cause, (run moment coloured options system).ending ≠ .failed cause) :
    ∃ opened file, LogFile.openAt system path = .ok (opened, file) ∧
      file.write opened
          (RunRecord.ofReports moment system
            (lintFiles system (options.rules config) (options.files config system))
            (ruleIds (options.rules config))) =
        .ok (run moment coloured options system).system := by
  rw [system_run_of_loaded loaded someRule someFile]
  rw [ending_run, loaded] at fine
  simp only [Run.ending_withConfig, if_neg (not_or.mpr ⟨someRule, someFile⟩),
    Run.ending_check] at fine
  cases kept : (Run.writeLog moment options (options.rules config)
      (lintFiles system (options.rules config) (options.files config system)) system).1 with
  | error cause => simp [kept] at fine
  | ok notices =>
      rcases writeLog_eq_ok_iff.mp (Prod.ext kept rfl) with ⟨silent, _⟩ |
        ⟨other, opened, file, same, opens, written, _⟩
      · rw [asked] at silent
        cases silent
      · rw [asked, Option.some.injEq] at same
        subst same
        exact ⟨opened, file, opens, written⟩

end Busy

/-! ## Complete records -/

/-- The ids of rules are listed each once, in the order in which they first occur.  Whatever is
reported for a text, by the rules that specifications give, has an id of this list, and
none that is disabled.  A run that has rules and files to check and does not fail adds a record
with this list to its log, and every violation in the record has an id of the list and
none that is disabled. -/
theorem enabledRules_complete :
    (∀ rules : List Rule, EachOnce (ruleIds rules) (rules.map Rule.id)) ∧
    (∀ (path source : String) (specs : List RuleSpec) (disabled : List String),
      let rules := activeRules specs disabled
      ∀ violation ∈ (lintSource path source rules).violations,
        violation.ruleId ∈ ruleIds rules ∧ violation.ruleId ∉ disabled) ∧
    (∀ (moment : Int) (coloured : Bool) (options : Options) (system : FileSystem)
        (config : Option Config) (path : String),
      let ended := run moment coloured options system
      let rules := options.rules config
      let files := options.files config system
      let record :=
        RunRecord.ofReports moment system (lintFiles system rules files) (ruleIds rules)
      options.loadConfig system = .ok config → rules ≠ [] → files ≠ [] →
      options.logFile = some path → (∀ cause, ended.ending ≠ .failed cause) →
      (∃ opened file, LogFile.openAt system path = .ok (opened, file) ∧
        file.write opened record = .ok ended.system) ∧
      EachOnce record.enabledRules (rules.map Rule.id) ∧
      ∀ entry ∈ record.violations, entry.ruleId ∈ record.enabledRules ∧
        entry.ruleId ∉ (options.settings config).disable) := by
  refine ⟨eachOnce_ruleIds, ?_, ?_⟩
  · intro path source specs disabled rules violation found
    obtain ⟨rule, active, same⟩ := exists_rule_of_mem_lintSource found
    rw [← same]
    exact ⟨id_mem_ruleIds active, id_not_mem_of_mem_activeRules active⟩
  · intro moment coloured options system config path ended rules files record loaded someRule
      someFile asked fine
    refine ⟨write_of_run loaded someRule someFile asked fine, eachOnce_ruleIds rules, ?_⟩
    intro entry kept
    obtain ⟨rule, active, same⟩ := exists_rule_of_mem_ofReports kept
    rw [← same]
    exact ⟨id_mem_ruleIds active, id_not_mem_of_mem_activeRules active⟩

/-- Two rules share an id, another one is disabled, and the violations come in another order
than the rules. -/
theorem enabledRules_complete_with_shared_id :
    let source := "@job\nclass C:\n  @page\n  def f(): x\n"
    let settings := "[tool.annotation-lint]\nrequired=[" ++
      "\x7bid='B2',annotation='page',parameters=['path']\x7d," ++
      "\x7bid='C3',annotation='job',parameters=['at']\x7d]"
    let system : FileSystem :=
      { root := .folder
          [("a.py", .file (.text source)), ("pyproject.toml", .file (.text settings))] }
    let stated : List RuleSpec :=
      [{ id := some "B2", target := some "page", parameters := ["path"] },
        { id := some "C3", target := some "job", parameters := ["at"] }]
    let required : List RuleSpec :=
      [{ target := some "job", parameters := ["name"] },
        { target := some "task", parameters := ["at"] }]
    let options : Options :=
      { paths := ["a.py"], require := required, disable := ["C3"], logFile := some "log/run" }
    let rules := activeRules (stated ++ required) ["C3"]
    let ended := run 0 false options system
    let record := RunRecord.ofReports 0 system (lintFiles system rules ["a.py"]) (ruleIds rules)
    options.loadConfig system = .ok (some { required := stated }) ∧
      (∀ cause, ended.ending ≠ .failed cause) ∧
      ruleIds rules = ["B2", "ANN001"] ∧ EachOnce (ruleIds rules) ["B2", "ANN001", "ANN001"] ∧
      (lintSource "a.py" source rules).violations.map Violation.ruleId = ["ANN001", "B2"] ∧
      (∃ violation ∈ (lintSource "a.py" source rules).violations,
        violation.ruleId = "ANN001" ∧ violation.ruleId ∈ ruleIds rules) ∧
      (∃ opened file, LogFile.openAt system "log/run" = .ok (opened, file) ∧
        file.write opened record = .ok ended.system) ∧
      ∃ entry ∈ record.violations, entry.ruleId = "B2" ∧ entry.ruleId ∈ record.enabledRules := by
  intro source settings system stated required options rules ended record
  have loaded : options.loadConfig system = .ok (some { required := stated }) := by
    decide +kernel
  have chosen : options.rules (some { required := stated }) = rules := by
    decide +kernel
  have files : options.files (some { required := stated }) system = ["a.py"] := by
    decide +kernel
  have room : (LogFile.openAt system "log/run").toOption.map (·.1.full) = some false := by
    decide +kernel
  have listed : ruleIds rules = ["B2", "ANN001"] := by
    decide +kernel
  have reported : (lintSource "a.py" source rules).violations.map Violation.ruleId =
      ["ANN001", "B2"] := by
    decide +kernel
  have recorded : record.violations.map LoggedViolation.ruleId = ["ANN001", "B2"] := by
    rw [← reported]
    simp only [record, RunRecord.ofReports, findingsOf_eq, List.map_map]
    exact congrArg (List.map Violation.ruleId) (List.append_nil _)
  have kept : ¬ LogRefused 0 options rules (lintFiles system rules ["a.py"]) system := by
    rw [logRefused_iff]
    rintro ⟨path, ⟨⟩, ⟨cause, refused⟩ | ⟨opened, file, opens, full⟩⟩
    · simp [refused, Except.toOption] at room
    · simp [opens, full, Except.toOption] at room
  have fine : ∀ cause, ended.ending ≠ .failed cause := by
    intro cause failed
    rcases ending_run_cases 0 false options system with
      ⟨_, fails, _⟩ | ⟨_, _, violated⟩ | ⟨_, _, passed⟩
    · rw [fails_iff_of_loaded loaded, chosen, files] at fails
      exact kept fails.2
    · cases failed.symm.trans violated
    · cases failed.symm.trans passed
  obtain ⟨first, firstIn, firstId⟩ : ∃ violation ∈ (lintSource "a.py" source rules).violations,
      violation.ruleId = "ANN001" := by
    rw [← List.mem_map, reported]
    decide
  obtain ⟨last, lastIn, lastId⟩ : ∃ entry ∈ record.violations, entry.ruleId = "B2" := by
    rw [← List.mem_map, recorded]
    decide
  obtain ⟨eachOnce, ofText, ofRun⟩ := enabledRules_complete
  have complete := ofRun 0 false options system _ "log/run" loaded
  rw [chosen, files] at complete
  obtain ⟨written, _, named⟩ := complete (by decide +kernel) (by decide) rfl fine
  exact ⟨loaded, fine, listed, eachOnce rules, reported,
    ⟨first, firstIn, firstId, (ofText _ _ _ _ first firstIn).1⟩, written,
    ⟨last, lastIn, lastId, (named last lastIn).1⟩⟩

end DecoratorLint
