import DecoratorLint.Command.Run
import DecoratorLint.Proofs.Truncation
import DecoratorLint.Proofs.Verdict
import Mathlib.Data.List.Induction
import Mathlib.Data.List.Perm.Basic
import Mathlib.Data.String.Basic

/-!
# Agreement of reports, summary and record

A report shows violations by rule, a record lists them as they were found, and the
summary only counts them.  All three tell of the same violations: the groups of a report
part them, the record keeps their order, and every count adds up to their number.
-/

namespace DecoratorLint

/-! ## Lines to show -/

namespace SourceLines

/-- What was read is what is in the files. -/
def Current (cache : SourceLines) (system : FileSystem) : Prop :=
  ∀ path file, cache.files.lookup path = some file → file = load system path

theorem current_empty (system : FileSystem) : Current {} system := by
  intro path file known
  simp at known

/-- What was read before does not show in an answer. -/
theorem get_of_current {cache : SourceLines} {system : FileSystem}
    (current : cache.Current system) (path : String) (line : Nat) :
    (cache.get system path line).1 = lineOf (load system path) line ∧
      (cache.get system path line).2.Current system := by
  have seen : (cache.files.lookup path).getD (load system path) = load system path := by
    cases known : cache.files.lookup path with
    | none => rfl
    | some file => exact current path file known
  refine ⟨by rw [fst_get, seen], ?_⟩
  intro other file found
  rw [lookup_get, seen] at found
  split at found
  · rename_i same
    subst same
    exact (Option.some.inj found).symm
  · exact current other file found

theorem getAll_of_current {α : Type} (pathOf : α → String) (lineNumber : α → Nat)
    {system : FileSystem} {cache : SourceLines} (current : cache.Current system)
    (items : List α) :
    (getAll pathOf lineNumber system cache items).1 =
      items.map fun item => (item, lineOf (load system (pathOf item)) (lineNumber item)) := by
  induction items generalizing cache with
  | nil => rfl
  | cons first rest ih =>
      obtain ⟨answer, still⟩ := get_of_current current (pathOf first) (lineNumber first)
      simp only [getAll, List.map_cons, answer, ih still]

end SourceLines

/-- The line at which a violation stands, as the files are. -/
def lineAt (system : FileSystem) (violation : Violation) : String :=
  SourceLines.lineOf (SourceLines.load system violation.path) violation.line

/-- The findings are the violations, each with the line it stands at. -/
theorem findingsOf_eq (system : FileSystem) (reports : List FileReport) :
    (findingsOf system reports).1 =
      (allViolations reports).map fun violation =>
        { violation, sourceLine := lineAt system violation } := by
  have answers := SourceLines.getAll_of_current Violation.path Violation.line
    (SourceLines.current_empty system) (allViolations reports)
  simp only [findingsOf, answers, List.map_map]
  rfl

/-- Findings are the same as long as the files in which they were found are. -/
theorem findingsOf_congr {before after : FileSystem} {reports : List FileReport}
    (unchanged : ∀ violation ∈ allViolations reports,
      before.read violation.path = after.read violation.path) :
    (findingsOf before reports).1 = (findingsOf after reports).1 := by
  rw [findingsOf_eq, findingsOf_eq]
  apply List.map_congr_left
  intro violation member
  rw [lineAt, lineAt, SourceLines.load, SourceLines.load, unchanged violation member]

/-! ## Groups -/

namespace RuleGroup

theorem map_ruleId_insert (finding : Finding) (groups : List RuleGroup) :
    (insert finding groups).map ruleId =
      Text.insertSorted finding.violation.ruleId (groups.map ruleId) := by
  induction groups with
  | nil => rfl
  | cons first rest ih =>
      rw [insert, List.map_cons, Text.insertSorted]
      split
      · rfl
      · split
        · rfl
        · rw [List.map_cons, ih]

/-- What a group is after a finding was added: as it was, longer by the finding, or new. -/
theorem insert_cases {finding : Finding} {groups : List RuleGroup}
    (increasing : (groups.map ruleId).Pairwise (· < ·)) {group : RuleGroup}
    (member : group ∈ insert finding groups) :
    group ∈ groups ∧ group.ruleId ≠ finding.violation.ruleId ∨
      (∃ old ∈ groups, old.ruleId = finding.violation.ruleId ∧
        group = { old with findings := old.findings ++ [finding] }) ∨
      finding.violation.ruleId ∉ groups.map ruleId ∧
        group = { ruleId := finding.violation.ruleId, findings := [finding] } := by
  induction groups with
  | nil =>
      rw [insert, List.mem_singleton] at member
      exact .inr (.inr ⟨by simp, member⟩)
  | cons first rest ih =>
      rw [List.map_cons, List.pairwise_cons, List.forall_mem_map] at increasing
      obtain ⟨below, restIncreasing⟩ := increasing
      rw [insert] at member
      split at member
      · rename_i less
        have above : ∀ old ∈ first :: rest, old.ruleId ≠ finding.violation.ruleId := by
          intro old listed
          rcases List.mem_cons.mp listed with rfl | listed
          · exact less.ne'
          · exact (less.trans (below old listed)).ne'
        rcases List.mem_cons.mp member with rfl | member
        · refine .inr (.inr ⟨?_, rfl⟩)
          rintro listed
          obtain ⟨old, listed, same⟩ := List.mem_map.mp listed
          exact above old listed same
        · exact .inl ⟨member, above group member⟩
      · split at member
        · rename_i same
          rcases List.mem_cons.mp member with rfl | member
          · exact .inr (.inl ⟨first, List.mem_cons_self, same.symm, rfl⟩)
          · exact .inl ⟨List.mem_cons_of_mem first member, same ▸ (below group member).ne'⟩
        · rename_i apart
          rcases List.mem_cons.mp member with rfl | member
          · exact .inl ⟨List.mem_cons_self, Ne.symm apart⟩
          · rcases ih restIncreasing member with ⟨listed, other⟩ | ⟨old, listed, longer⟩ |
              ⟨free, new⟩
            · exact .inl ⟨List.mem_cons_of_mem first listed, other⟩
            · exact .inr (.inl ⟨old, List.mem_cons_of_mem first listed, longer⟩)
            · exact .inr (.inr ⟨List.not_mem_cons_of_ne_of_not_mem apart free, new⟩)

theorem perm_flatMap_insert (finding : Finding) (groups : List RuleGroup) :
    ((insert finding groups).flatMap findings).Perm (groups.flatMap findings ++ [finding]) := by
  induction groups with
  | nil => rfl
  | cons first rest ih =>
      rw [insert]
      split
      · exact List.perm_append_comm
      · split
        · simp only [List.flatMap_cons, List.append_assoc]
          exact List.perm_append_comm.append_left first.findings
        · simp only [List.flatMap_cons, List.append_assoc]
          exact ih.append_left first.findings

/-- The groups of findings: ids increase, each group is what was found for its id, in the
order in which it was found, and all that was found is in the groups. -/
structure Parts (groups : List RuleGroup) (found : List Finding) : Prop where
  increasing : (groups.map ruleId).Pairwise (· < ·)
  nonempty : ∀ group ∈ groups, group.findings ≠ []
  findings_eq : ∀ group ∈ groups,
    group.findings = found.filter (·.violation.ruleId = group.ruleId)
  covers : ∀ finding ∈ found, finding.violation.ruleId ∈ groups.map ruleId
  perm : (groups.flatMap findings).Perm found

theorem Parts.insert {groups : List RuleGroup} {found : List Finding} (parts : Parts groups found)
    (finding : Finding) : Parts (insert finding groups) (found ++ [finding]) := by
  refine ⟨?_, ?_, ?_, ?_, ?_⟩
  · rw [map_ruleId_insert]
    exact Text.pairwise_lt_insertSorted parts.increasing
  · intro group member
    rcases insert_cases parts.increasing member with ⟨listed, _⟩ | ⟨old, _, _, rfl⟩ | ⟨_, rfl⟩
    · exact parts.nonempty group listed
    · simp
    · simp
  · intro group member
    rw [List.filter_append]
    rcases insert_cases parts.increasing member with ⟨listed, other⟩ | ⟨old, listed, same, rfl⟩ |
      ⟨free, rfl⟩
    · simp [parts.findings_eq group listed, Ne.symm other]
    · simp [parts.findings_eq old listed, same]
    · have none : found.filter (·.violation.ruleId = finding.violation.ruleId) = [] := by
        rw [List.filter_eq_nil_iff]
        intro earlier member same
        exact free (of_decide_eq_true same ▸ parts.covers earlier member)
      simp [none]
  · intro other member
    rw [map_ruleId_insert, Text.mem_insertSorted]
    rcases List.mem_append.mp member with earlier | last
    · exact .inr (parts.covers other earlier)
    · rw [List.mem_singleton.mp last]
      exact .inl rfl
  · exact (perm_flatMap_insert finding groups).trans (parts.perm.append_right [finding])

theorem parts_ofFindings (found : List Finding) : Parts (ofFindings found) found := by
  induction found using List.reverseRecOn with
  | nil => exact ⟨.nil, by simp, by simp, by simp, .nil⟩
  | append_singleton found finding ih =>
      rw [ofFindings_concat]
      exact ih.insert finding

end RuleGroup

/-! ## Counts -/

/-- Every violation has one of the three severities. -/
theorem countP_severities (violations : List Violation) :
    violations.countP (·.severity = .error) + violations.countP (·.severity = .warning) +
      violations.countP (·.severity = .info) = violations.length := by
  induction violations with
  | nil => rfl
  | cons violation violations ih =>
      simp only [List.countP_cons, List.length_cons]
      cases violation.severity <;> simp <;> omega

theorem countOf_severities (reports : List FileReport) :
    countOf reports .error + countOf reports .warning + countOf reports .info =
      (allViolations reports).length := by
  rw [countOf_eq_countP, countOf_eq_countP, countOf_eq_countP]
  exact countP_severities (allViolations reports)

/-! ## Agreement -/

/-- A line of at most 200 characters as it is, and of a longer one the first 200, marked as
cut. -/
def shortLine (line : String) : String :=
  if line.length ≤ 200 then line else String.ofList (line.toList.take 200) ++ "..."

theorem truncated_eq_shortLine (line : String) :
    Text.truncated line LoggedViolation.lineLimit = shortLine line := by
  rw [LoggedViolation.lineLimit, shortLine]
  split
  · rename_i short
    exact Text.truncated_eq_self short
  · rename_i long
    exact Text.truncated_of_lt (Nat.not_le.mp long)

/-- What is told of checked files by a report, by the record of the run and by the summary,
while the files in which something was found stay as they are.  The groups part the
violations by rule, the record lists them in their order, with the lines of the groups
shortened, and all counts add up to the number of violations. -/
theorem reports_agree (moment : Int) (logged shown : FileSystem) (reports : List FileReport)
    (enabledRules : List String) (verbose : Bool)
    (unchanged : ∀ violation ∈ allViolations reports,
      logged.read violation.path = shown.read violation.path) :
    let violations := allViolations reports
    let groups := RuleGroup.ofFindings (findingsOf shown reports).1
    let record := RunRecord.ofReports moment logged reports enabledRules
    (groups.map RuleGroup.ruleId).Pairwise (· < ·) ∧
    (∀ group ∈ groups, group.findings ≠ [] ∧
      group.findings.map Finding.violation = violations.filter (·.ruleId = group.ruleId)) ∧
    (∀ violation ∈ violations, violation.ruleId ∈ groups.map RuleGroup.ruleId) ∧
    (groups.flatMap fun group => group.findings.map Finding.violation).Perm violations ∧
    (record.violations.map fun entry =>
        (entry.ruleId, entry.path, entry.line, entry.severity, entry.message)) =
      violations.map (fun violation =>
        (violation.ruleId, violation.path, violation.line, violation.severity,
          violation.message)) ∧
    (∀ group ∈ groups,
      record.violations.filter (·.ruleId = group.ruleId) =
        group.findings.map fun finding =>
          { ruleId := group.ruleId
            path := finding.violation.path
            line := finding.violation.line
            severity := finding.violation.severity
            message := finding.violation.message
            sourceLine :=
              if finding.sourceLine = "" then none else some (shortLine finding.sourceLine) }) ∧
    (groups.map (·.findings.length)).sum = violations.length ∧
    record.totalViolations = violations.length ∧
    record.errorCount + record.warningCount + record.infoCount = violations.length ∧
    Run.summary verbose reports =
      if violations.length > 0 then
        [.remark "", .remark <|
          "Found " ++ Text.showNat violations.length ++ " issue(s): " ++
            Text.showNat record.errorCount ++ " error(s), " ++
            Text.showNat record.warningCount ++ " warning(s), " ++
            Text.showNat record.infoCount ++ " info"]
      else if verbose then [.remark "", .remark "No issues found."] else [] := by
  intro violations groups record
  let found := (findingsOf shown reports).1
  have parts : RuleGroup.Parts groups found := RuleGroup.parts_ofFindings found
  have kept : found.map Finding.violation = violations := map_violation_findingsOf shown reports
  have listed : record.violations = found.map LoggedViolation.ofFinding := by
    rw [show found = (findingsOf logged reports).1 from (findingsOf_congr unchanged).symm]
    rfl
  have total : record.totalViolations = record.violations.length := rfl
  have counted : record.errorCount + record.warningCount + record.infoCount =
      violations.length := countOf_severities reports
  refine ⟨parts.increasing, ?_, ?_, ?_, ?_, ?_, ?_, ?_, counted, ?_⟩
  · intro group member
    refine ⟨parts.nonempty group member, ?_⟩
    rw [parts.findings_eq group member, ← kept, List.filter_map]
    rfl
  · rw [← kept, List.forall_mem_map]
    exact parts.covers
  · rw [← kept, ← List.map_flatMap]
    exact parts.perm.map Finding.violation
  · rw [listed, ← kept, List.map_map, List.map_map]
    rfl
  · intro group member
    rw [listed, List.filter_map, parts.findings_eq group member]
    apply List.map_congr_left
    intro finding own
    have same : finding.violation.ruleId = group.ruleId :=
      of_decide_eq_true (List.mem_filter.mp own).2
    rw [LoggedViolation.ofFinding, LoggedViolation.shownLine?, truncated_eq_shortLine, same]
  · rw [← List.length_flatMap, parts.perm.length_eq, ← kept, List.length_map]
  · rw [total, listed, ← kept, List.length_map, List.length_map]
  · rw [Run.summary, ← counted]
    rfl

/-- Three violations of two rules in two files, with a log file written in between. -/
theorem reports_agree_after_logging :
    let first : Violation :=
      { ruleId := "Q2", path := "b.py", offset := 1, line := 1, severity := .info, message := "" }
    let second : Violation := { first with ruleId := "Q1", severity := .error }
    let third : Violation := { first with path := "a.py", severity := .warning }
    let reports : List FileReport :=
      [{ path := "b.py", outcome := .checked [first, second] },
        { path := "c.py", outcome := .unparsable },
        { path := "a.py", outcome := .checked [third] }]
    let logged : FileSystem := { root := .folder [("b.py", .file (.text " @job\n"))] }
    let shown : FileSystem :=
      { root := .folder [("b.py", .file (.text " @job\n")), ("log", .file (.text "\n"))] }
    let groups := RuleGroup.ofFindings (findingsOf shown reports).1
    let record := RunRecord.ofReports 0 logged reports ["Q1", "Q2"]
    (∀ violation ∈ allViolations reports,
      logged.read violation.path = shown.read violation.path) ∧
    groups.map (fun group => group.findings.map Finding.violation) =
      [[second], [first, third]] ∧
    record.violations.map LoggedViolation.sourceLine = [some "@job", some "@job", none] ∧
    (groups.map (·.findings.length)).sum = 3 ∧ record.totalViolations = 3 := by
  intro first second third reports logged shown groups record
  have unchanged : ∀ violation ∈ allViolations reports,
      logged.read violation.path = shown.read violation.path := by
    decide +kernel
  obtain ⟨_, _, _, _, _, _, sum, total, _⟩ :=
    reports_agree 0 logged shown reports ["Q1", "Q2"] true unchanged
  refine ⟨unchanged, ?_, ?_, sum, total⟩
  · decide +kernel
  · decide +kernel

end DecoratorLint
