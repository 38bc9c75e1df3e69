import DecoratorLint.Proofs.ConfigReading
import DecoratorLint.Proofs.ExitStatus

/-!
# The rules of a run

Specifications come from a file and from the command line.  Those of a file are
checked before they are used, and those of the command line have no id of their own, so
that every rule of a run has an id that is one.  The rules are those of the
specifications that name a decorator and are not disabled, in order.  A run tells which
rules it goes by, and a run whose file has an id that is none goes by no rule at all.
-/

namespace DecoratorLint

open RuleSpec (IsRuleId)

/-! ## Specifications on the command line -/

theorem RuleSpec.ofText_eq_ok_iff {text : String} {spec : RuleSpec} :
    ofText text = .ok spec ↔ ofText? text = some spec := by
  rw [ofText]
  cases ofText? text <;> simp

/-- A specification that is written on the command line states no id. -/
theorem RuleSpec.id_of_ofText {text : String} {spec : RuleSpec} (read : ofText text = .ok spec) :
    spec.id = none := by
  rw [ofText_eq_ok_iff] at read
  simp only [ofText?] at read
  split at read
  · contradiction
  · cases read
    rfl

theorem RuleSpec.isRuleId_of_ofText {text : String} {spec : RuleSpec}
    (read : ofText text = .ok spec) : IsRuleId spec.ruleId := by
  rw [ruleId, id_of_ofText read]
  exact isRuleId_defaultId

/-- All specifications were read from texts. -/
def Written (specs : List RuleSpec) : Prop :=
  ∀ spec ∈ specs, ∃ text, RuleSpec.ofText text = .ok spec

namespace CommandLine

namespace Draft

/-- What a switch can do: leave the specifications as they are, or answer a question. -/
def Turned (draft : Draft) : Draft ⊕ Request → Prop
  | .inl turned => turned.require = draft.require
  | .inr request => ∀ options, request ≠ .run options

theorem turned_of_turn {draft : Draft} {switch : Switch} {result : Draft ⊕ Request}
    (done : draft.turn switch = .ok result) : draft.Turned result := by
  cases switch with
  | noConfig =>
      rw [turn] at done
      split at done
      · contradiction
      · cases done
        rfl
  | verbose =>
      rw [turn] at done
      split at done
      · contradiction
      · cases done
        rfl
  | version =>
      cases done
      exact fun _ same => nomatch same
  | help =>
      cases done
      exact fun _ same => nomatch same

theorem turned_of_turnAll {draft : Draft} {argument : String} {letters : List Char}
    {result : Draft ⊕ Request} (done : draft.turnAll argument letters = .ok result) :
    draft.Turned result := by
  induction letters generalizing draft with
  | nil =>
      cases done
      rfl
  | cons letter letters ih =>
      rw [turnAll] at done
      cases found : Switch.ofLetter? letter with
      | none =>
          rw [found] at done
          contradiction
      | some switch =>
          rw [found] at done
          cases first : draft.turn switch with
          | error mistake => simp [first] at done
          | ok middle =>
              have kept := turned_of_turn first
              cases middle with
              | inr request =>
                  simp only [first, Except.ok.injEq] at done
                  exact done ▸ kept
              | inl turned =>
                  simp only [first] at done
                  have later := ih done
                  cases result with
                  | inl last => exact later.trans kept
                  | inr request => exact later

/-- A setting adds at most one specification, which is read from its value. -/
theorem written_set {draft changed : Draft} {setting : Setting} {value : String}
    (written : Written draft.require) (done : draft.set setting value = .ok changed) :
    Written changed.require := by
  cases setting with
  | require =>
      simp only [set] at done
      split at done
      · rename_i spec read
        cases done
        intro other member
        rcases List.mem_append.mp member with earlier | last
        · exact written other earlier
        · rw [List.mem_singleton.mp last]
          exact ⟨value, RuleSpec.ofText_eq_ok_iff.mpr read⟩
      · contradiction
  | disable =>
      cases done
      exact written
  | exclude =>
      cases done
      exact written
  | outputFormat =>
      simp only [set] at done
      split at done
      · contradiction
      · split at done
        · contradiction
        · cases done
          exact written
  | config =>
      obtain ⟨path, _, rfl⟩ := map_eq_ok_iff.mp done
      exact written
  | logFile =>
      obtain ⟨path, _, rfl⟩ := map_eq_ok_iff.mp done
      exact written

theorem require_finish {draft : Draft} {options : Options}
    (done : draft.finish = .ok (.run options)) : options.require = draft.require := by
  rw [finish] at done
  split at done
  · contradiction
  · cases done
    rfl

end Draft

theorem written_readFrom {draft : Draft} {arguments : List String} {options : Options}
    (written : Written draft.require) (read : readFrom draft arguments = .ok (.run options)) :
    Written options.require := by
  fun_induction readFrom draft arguments
  case case1 => exact Draft.require_finish read ▸ written
  case case2 => exact Draft.require_finish read ▸ written
  case case4 done _ ih => exact ih (Draft.written_set written done) read
  case case8 done _ ih => exact ih (Draft.written_set written done) read
  case case13 done _ ih => exact ih (Draft.turned_of_turn done ▸ written) read
  case case16 done ih => exact ih (Draft.turned_of_turnAll done ▸ written) read
  case case17 ih => exact ih written read
  case case12 done _ => exact absurd (Except.ok.inj read) (Draft.turned_of_turn done options)
  case case15 done => exact absurd (Except.ok.inj read) (Draft.turned_of_turnAll done options)
  -- All other cases are mistakes.
  all_goals cases read

end CommandLine

/-- The command line gives only specifications that are written on it. -/
theorem Options.written_of_ofArguments {arguments : List String} {options : Options}
    (read : Request.ofArguments arguments = .ok (.run options)) : Written options.require := by
  have nothing : Written ({} : CommandLine.Draft).require := List.forall_mem_nil _
  exact CommandLine.written_readFrom nothing read

/-! ## The configuration of a run -/

/-- A run is to read a file, and this is what the section in it states. -/
def Options.Configured (options : Options) (system : FileSystem) (config : Config) : Prop :=
  options.noConfig = false ∧ ∃ path value,
    Config.loadPath system options.config = .ok (some path) ∧
      Config.HoldsSection system path value ∧ Config.ofSection? value = some config

namespace Options

variable {options : Options} {system : FileSystem} {config : Config}

theorem loadConfig_of_configured (configured : options.Configured system config) :
    options.loadConfig system =
      match config.invalidId? with
      | some id => .error (.invalidRuleId id)
      | none => .ok (some config) := by
  obtain ⟨wanted, path, value, located, holds, shaped⟩ := configured
  rw [loadConfig, wanted, Config.load_of_loadPath located, holds.readFrom_of_ofSection? shaped]
  cases config.invalidId? <;> rfl

theorem configured_of_loadConfig (loaded : options.loadConfig system = .ok (some config)) :
    options.Configured system config := by
  rw [loadConfig] at loaded
  split at loaded
  · cases loaded
  · rename_i wanted
    obtain ⟨path, located, read⟩ := Config.load_eq_ok_some_iff.mp loaded
    obtain ⟨value, holds, shaped⟩ := Config.exists_holdsSection_of_readFrom read
    exact ⟨Bool.eq_false_iff.mpr wanted, path, value, located, holds, shaped⟩

/-- A configuration is loaded exactly when it is given and all ids in it are ids. -/
theorem loadConfig_eq_ok_some_iff :
    options.loadConfig system = .ok (some config) ↔
      options.Configured system config ∧ ∀ spec ∈ config.required, IsRuleId spec.ruleId := by
  constructor
  · intro loaded
    have configured := configured_of_loadConfig loaded
    refine ⟨configured, Config.invalidId?_eq_none_iff.mp ?_⟩
    rw [loadConfig_of_configured configured] at loaded
    cases checked : config.invalidId? with
    | none => rfl
    | some id => simp [checked] at loaded
  · rintro ⟨configured, valid⟩
    rw [loadConfig_of_configured configured, Config.invalidId?_eq_none_iff.mpr valid]

theorem loadConfig_of_firstInvalid {spec : RuleSpec} (configured : options.Configured system config)
    (first : config.FirstInvalid spec) :
    options.loadConfig system = .error (.invalidRuleId spec.ruleId) := by
  rw [loadConfig_of_configured configured, Config.invalidId?_eq_some_iff.mpr ⟨spec, first, rfl⟩]

end Options

/-! ## What a run tells about its rules -/

/-- The rules that notices tell of, each by its id and in words. -/
def Notice.rulesTold (notices : List Notice) : List (String × String) :=
  notices.filterMap fun notice =>
    match notice with
    | .activeRule id description => some (id, description)
    | _ => none

/-- The notices among messages. -/
def Message.notices (messages : List Message) : List Notice :=
  messages.filterMap fun message =>
    match message with
    | .notice told => some told
    | _ => none

/-- The rules that a run says it goes by, in order. -/
def Run.rulesTold (run : Run) : List (String × String) :=
  Notice.rulesTold (Message.notices run.messages)

namespace Message

@[simp]
theorem notices_append (messages more : List Message) :
    notices (messages ++ more) = notices messages ++ notices more :=
  List.filterMap_append

@[simp]
theorem notices_map_notice (told : List Notice) : notices (told.map Message.notice) = told := by
  simp [notices]

@[simp]
theorem notices_map_report (lines : List String) : notices (lines.map Message.report) = [] := by
  simp [notices]

@[simp]
theorem notices_map_remark (lines : List String) : notices (lines.map Message.remark) = [] := by
  simp [notices]

end Message

namespace Notice

@[simp]
theorem rulesTold_append (notices more : List Notice) :
    rulesTold (notices ++ more) = rulesTold notices ++ rulesTold more :=
  List.filterMap_append

@[simp]
theorem rulesTold_ofSpecs (specs : List RuleSpec) (disabled : List String) :
    rulesTold (ofSpecs specs disabled) = [] := by
  rw [rulesTold, List.filterMap_eq_nil_iff]
  intro notice member
  obtain ⟨rule, _, found⟩ := List.mem_filterMap.mp member
  split at found
  · cases found
    rfl
  · split at found
    · cases found
    · cases found
      rfl

@[simp]
theorem rulesTold_map_ofRule (rules : List Rule) :
    rulesTold (rules.map ofRule) = rules.map fun rule => (rule.id, rule.description) := by
  simp [rulesTold, ofRule, Function.comp_def]

@[simp]
theorem rulesTold_ofPaths (system : FileSystem) (paths : List String) :
    rulesTold (ofPaths system paths) = [] := by
  simp [rulesTold, ofPaths]

@[simp]
theorem rulesTold_ofReport? (reports : List FileReport) :
    rulesTold (reports.filterMap ofReport?) = [] := by
  rw [rulesTold, List.filterMap_eq_nil_iff]
  intro notice member
  obtain ⟨report, _, found⟩ := List.mem_filterMap.mp member
  rw [ofReport?] at found
  split at found <;> cases found <;> rfl

@[simp]
theorem rulesTold_ofLines (cache : SourceLines) : rulesTold (ofLines cache) = [] := by
  simp [rulesTold, ofLines]

@[simp]
theorem rulesTold_configNotices (options : Options) (system : FileSystem) :
    rulesTold (options.configNotices system) = [] := by
  rw [Options.configNotices]
  split
  · rfl
  · split <;> rfl

end Notice

namespace Run

/-- The notices of a report are those about files that could not be read again. -/
theorem notices_report (coloured : Bool) (format : ReportFormat) (system : FileSystem)
    (reports : List FileReport) :
    Message.notices (report coloured format system reports) =
      Notice.ofLines (findingsOf system reports).2 := by
  cases format with
  | text => simp [report]
  | json =>
      have line (text : String) : Message.notices [.report text] = [] := rfl
      simp [report, line]

theorem notices_summary (verbose : Bool) (reports : List FileReport) :
    Message.notices (summary verbose reports) = [] := by
  simp only [summary]
  split
  · rfl
  · split <;> rfl

theorem rulesTold_of_writeLog {moment : Int} {options : Options} {rules : List Rule}
    {reports : List FileReport} {system left : FileSystem} {notices : List Notice}
    (written : writeLog moment options rules reports system = (.ok notices, left)) :
    Notice.rulesTold notices = [] := by
  rcases writeLog_eq_ok_iff.mp written with ⟨_, rfl, _⟩ | ⟨_, _, _, _, _, _, rfl⟩
  · rfl
  · exact Notice.rulesTold_ofLines _

/-- Nothing that is said while files are checked is about rules. -/
theorem rulesTold_check (moment : Int) (coloured : Bool) (options : Options) (rules : List Rule)
    (files : List String) (system : FileSystem) :
    (check moment coloured options rules files system).rulesTold = [] := by
  rw [rulesTold, check]
  split
  · simp
  · rename_i logging logged written
    simp [notices_report, notices_summary, rulesTold_of_writeLog written]

theorem rulesTold_ruleNotices (settings : Settings) (rules : List Rule) :
    Notice.rulesTold (ruleNotices settings rules) =
      rules.map fun rule => (rule.id, rule.description) := by
  have apart : ruleNotices settings rules =
      [.excluding settings.exclusion] ++
        (Notice.ofSpecs settings.required settings.disable ++ rules.map Notice.ofRule) := rfl
  have first : Notice.rulesTold [.excluding settings.exclusion] = [] := rfl
  rw [apart, Notice.rulesTold_append, first]
  simp

theorem rulesTold_withConfig (moment : Int) (coloured : Bool) (options : Options)
    (config : Option Config) (system : FileSystem) :
    (withConfig moment coloured options config system).rulesTold =
      (options.rules config).map fun rule => (rule.id, rule.description) := by
  have remark (line : String) : Message.notices [.remark line] = [] := rfl
  have found (count : Nat) : Message.notices [.notice (.filesFound count)] = [.filesFound count] :=
    rfl
  have counted (count : Nat) : Notice.rulesTold [.filesFound count] = [] := rfl
  have checked := rulesTold_check moment coloured options
  simp only [rulesTold] at checked
  simp only [Options.rules, rulesTold, withConfig]
  split
  · simp [rulesTold_ruleNotices, remark]
  · split
    · simp [-List.append_assoc, rulesTold_ruleNotices, remark, found, counted]
    · simp [-List.append_assoc, rulesTold_ruleNotices, found, counted, checked]

end Run

/-- A run tells the rules it goes by; one that has no configuration tells of none. -/
theorem rulesTold_run (moment : Int) (coloured : Bool) (options : Options)
    (system : FileSystem) :
    (run moment coloured options system).rulesTold =
      match options.loadConfig system with
      | .error _ => []
      | .ok config => (options.rules config).map fun rule => (rule.id, rule.description) := by
  rw [run]
  cases options.loadConfig system with
  | error cause => simp [Run.rulesTold]
  | ok config =>
      have rest := Run.rulesTold_withConfig moment coloured options config system
      rw [Run.rulesTold] at rest ⊢
      simp [rest]

/-! ## The rules -/

theorem activeRules_eq_map_filter (specs : List RuleSpec) (disabled : List String) :
    activeRules specs disabled =
      (specs.filter fun spec => spec.target.isSome ∧ spec.ruleId ∉ disabled).map Rule.ofSpec := by
  rw [activeRules, List.filter_map]
  congr 1
  apply List.filter_congr
  intro spec _
  have id : (Rule.ofSpec spec).id = spec.ruleId := rfl
  have target : (Rule.ofSpec spec).target = spec.target := rfl
  simp [Rule.isEnabled, id, target, Bool.and_comm]

/-- The rules of a run are those of the specifications, in order, that name a decorator and
whose id neither the file nor the command line disables. -/
theorem Options.rules_eq_map_filter (options : Options) (config : Option Config) :
    options.rules config =
      (((config.getD {}).required ++ options.require).filter fun spec =>
        spec.target.isSome ∧ spec.ruleId ∉ (config.getD {}).disable ∧
          spec.ruleId ∉ options.disable).map Rule.ofSpec := by
  rw [Options.rules, activeRules_eq_map_filter]
  simp [Options.settings, Settings.merge]

/-- All specifications of a run have ids that are ids. -/
theorem isRuleId_of_mem_specs {options : Options} {system : FileSystem} {config : Option Config}
    {spec : RuleSpec} (written : Written options.require)
    (loaded : options.loadConfig system = .ok config)
    (member : spec ∈ (config.getD {}).required ++ options.require) : IsRuleId spec.ruleId := by
  rcases List.mem_append.mp member with stated | required
  · cases config with
    | none => cases stated
    | some config => exact (Options.loadConfig_eq_ok_some_iff.mp loaded).2 spec stated
  · obtain ⟨text, read⟩ := written spec required
    exact RuleSpec.isRuleId_of_ofText read

/-- What rules a run goes by.  A configuration is used exactly when it is given and has only
ids that are ids.  Then the rules are those of its specifications and of the ones that are
written on the command line, in order, less those without a decorator and those that are
disabled; each has an id that is one.  A configuration with another id is refused for the
first of them, whatever else holds of its specification, and no rule is told. -/
theorem rules_of_run (moment : Int) (coloured : Bool) (system : FileSystem) {options : Options}
    (written : Written options.require) :
    let ended := run moment coloured options system
    (∀ config, options.loadConfig system = .ok (some config) ↔
      options.Configured system config ∧ ∀ spec ∈ config.required, IsRuleId spec.ruleId) ∧
    (∀ config, options.loadConfig system = .ok config →
      let base := config.getD {}
      (∀ rule ∈ options.rules config, rule.target.isSome ∧ IsRuleId rule.id ∧
        rule.id ∉ base.disable ∧ rule.id ∉ options.disable) ∧
      options.rules config =
        ((base.required ++ options.require).filter fun spec =>
          spec.target.isSome ∧ spec.ruleId ∉ base.disable ∧
            spec.ruleId ∉ options.disable).map Rule.ofSpec ∧
      ended.rulesTold = (options.rules config).map fun rule => (rule.id, rule.description)) ∧
    ∀ config, options.Configured system config →
      (∃ spec ∈ config.required, ¬ IsRuleId spec.ruleId) →
        ∃ spec, config.FirstInvalid spec ∧
          options.loadConfig system = .error (.invalidRuleId spec.ruleId) ∧
            ended.ending = .failed (.config (.invalidRuleId spec.ruleId)) ∧
              ended.rulesTold = [] := by
  intro ended
  refine ⟨fun config => Options.loadConfig_eq_ok_some_iff, ?_, ?_⟩
  · intro config loaded base
    refine ⟨?_, options.rules_eq_map_filter config, ?_⟩
    · intro rule active
      rw [Options.rules_eq_map_filter, List.mem_map] at active
      obtain ⟨spec, kept, rfl⟩ := active
      obtain ⟨member, conditions⟩ := List.mem_filter.mp kept
      obtain ⟨named, enabled⟩ := of_decide_eq_true conditions
      exact ⟨named, isRuleId_of_mem_specs written loaded member, enabled⟩
    · rw [rulesTold_run, loaded]
  · intro config configured invalid
    obtain ⟨spec, first⟩ := Config.exists_firstInvalid invalid
    have refused := Options.loadConfig_of_firstInvalid configured first
    refine ⟨spec, first, refused, ?_, ?_⟩
    · rw [ending_run, refused]
    · rw [rulesTold_run, refused]

/-- An id that is none is refused even where it is disabled and there is no decorator, and
then the rule of the command line is not used either.  Without the file it is. -/
theorem rules_of_run_with_disabled_invalid_id :
    let system : FileSystem :=
      { root := .folder
          [("pyproject.toml", .file (.text "[[tool.annotation-lint.required]]\nid='x'"))] }
    let options : Options :=
      { require := [{ target := some "job", parameters := ["name"] }], disable := ["x"] }
    let alone : Options := { options with noConfig := true }
    Request.ofArguments ["--require", "job=name", "--disable", "x"] = .ok (.run options) ∧
      Request.ofArguments ["--require", "job=name", "--disable", "x", "--no-config"] =
        .ok (.run alone) ∧
      (run 0 false options system).ending = .failed (.config (.invalidRuleId "x")) ∧
      (run 0 false options system).rulesTold = [] ∧
      (run 0 false alone system).rulesTold =
        [("ANN001", "@job must be given its required keyword parameters")] := by
  intro system options alone
  have asked : Request.ofArguments ["--require", "job=name", "--disable", "x"] =
      .ok (.run options) := rfl
  have askedAlone : Request.ofArguments
      ["--require", "job=name", "--disable", "x", "--no-config"] = .ok (.run alone) := rfl
  have configured : options.Configured system { required := [{ id := some "x" }] } := by
    have found : Config.discover? system system.currentPath = some "/pyproject.toml" := by
      decide +kernel
    have stated : ((Toml.parse? "[[tool.annotation-lint.required]]\nid='x'".toList).bind
        fun document => (Config.section? document).bind Config.ofSection?) =
          some { required := [{ id := some "x" }] } := by
      decide +kernel
    obtain ⟨document, parsed, held⟩ := Option.bind_eq_some_iff.mp stated
    obtain ⟨value, located, shaped⟩ := Option.bind_eq_some_iff.mp held
    exact ⟨rfl, "/pyproject.toml", value, congrArg Except.ok found,
      ⟨_, document, rfl, parsed, located⟩, shaped⟩
  have invalid : ¬ IsRuleId "x" := by
    rw [← RuleSpec.isId_iff]
    decide
  obtain ⟨_, _, refused⟩ :=
    rules_of_run 0 false system (Options.written_of_ofArguments asked)
  obtain ⟨_, chosen, _⟩ :=
    rules_of_run 0 false system (Options.written_of_ofArguments askedAlone)
  obtain ⟨spec, ⟨before, after, shape, _⟩, _, failed, silent⟩ :=
    refused _ configured ⟨_, List.mem_singleton_self _, invalid⟩
  have only : spec = { id := some "x" } := by
    have member : spec ∈ before ++ spec :: after := by simp
    rw [← shape] at member
    exact List.mem_singleton.mp member
  obtain ⟨_, _, told⟩ := chosen none rfl
  refine ⟨asked, askedAlone, ?_, silent, ?_⟩
  · rw [failed, only]
    rfl
  · rw [told]
    decide

end DecoratorLint
