import DecoratorLint.Proofs.JsonReading
import DecoratorLint.RunLog.Line

/-!
# Records and their lines

The line of a record whose numbers fit into 64 bits is one line, and the record is
read back from it.  Whatever text a record is read from, its numbers fit, so that
the record can be written and read again, and nothing changes any more after that.
-/

namespace DecoratorLint

/-! ## Fields -/

namespace Json

/-- Results are collected exactly when there is one for each item. -/
theorem mapM_eq_some_iff {α β : Type} {read : α → Option β} {items : List α} {results : List β} :
    items.mapM read = some results ↔ items.map read = results.map some := by
  induction items generalizing results with
  | nil => cases results <;> simp
  | cons item items ih =>
      rw [List.mapM_cons]
      cases results <;> simp [Option.bind_eq_some_iff, ih]

theorem mapM_map_eq_some {α β : Type} {write : α → β} {read : β → Option α} {items : List α}
    (readBack : ∀ item ∈ items, read (write item) = some item) :
    (items.map write).mapM read = some items := by
  rw [mapM_eq_some_iff, List.map_map]
  exact List.map_congr_left readBack

/-- Every result was read from one of the items. -/
theorem exists_of_mapM_eq_some {α β : Type} {read : α → Option β} {items : List α}
    {results : List β} (collected : items.mapM read = some results) :
    ∀ result ∈ results, ∃ item ∈ items, read item = some result := by
  intro result member
  have mapped : some result ∈ items.map read := by
    rw [mapM_eq_some_iff.mp collected]
    exact List.mem_map_of_mem member
  exact List.mem_map.mp mapped

theorem valuesOf_named (members : List (String × Json)) (name : String) :
    valuesOf (named members) name = (members.filter (·.1 = name)).map Prod.snd := by
  simp [valuesOf, named, List.filter_map, Function.comp_def]

theorem filter_name_eq_nil {members : List (String × Json)} {name : String}
    (absent : name ∉ members.map Prod.fst) : members.filter (·.1 = name) = [] := by
  rw [List.filter_eq_nil_iff]
  intro member listed same
  rw [decide_eq_true_eq] at same
  exact absent (same ▸ List.mem_map_of_mem listed)

theorem filter_name_eq_singleton {members : List (String × Json)}
    (distinct : (members.map Prod.fst).Nodup) {member : String × Json}
    (listed : member ∈ members) : members.filter (·.1 = member.1) = [member] := by
  induction members with
  | nil => simp at listed
  | cons first rest ih =>
      obtain ⟨absent, restDistinct⟩ := List.nodup_cons.mp distinct
      rcases List.mem_cons.mp listed with rfl | inRest
      · rw [List.filter_cons_of_pos (by simp), filter_name_eq_nil absent]
      · have other : first.1 ≠ member.1 := by
          intro same
          exact absent (same ▸ List.mem_map_of_mem inRest)
        rw [List.filter_cons_of_neg (by simpa using other), ih restDistinct inRest]

theorem fieldOf?_named_of_mem {members : List (String × Json)}
    (distinct : (members.map Prod.fst).Nodup) {member : String × Json}
    (listed : member ∈ members) :
    fieldOf? (named members) member.1 = some (some member.2) := by
  rw [fieldOf?, valuesOf_named, filter_name_eq_singleton distinct listed]
  rfl

theorem fieldOf?_named_of_not_mem {members : List (String × Json)} {name : String}
    (absent : name ∉ members.map Prod.fst) : fieldOf? (named members) name = some none := by
  rw [fieldOf?, valuesOf_named, filter_name_eq_nil absent]
  rfl

/-- The fields of an object that was written: a value for each member, and nothing
for the names that have no member. -/
theorem fields?_ofMembers {names : List String} {members : List (String × Json)}
    (missing : List String) (split : members.map Prod.fst ++ missing = names)
    (distinct : names.Nodup) :
    fields? names (.ofMembers members) =
      some (members.map (fun member => some member.2) ++ missing.map fun _ => none) := by
  subst split
  obtain ⟨distinctMembers, _, apart⟩ := List.nodup_append.mp distinct
  have nameless : (named members).any (·.1.isNone) = false := by
    simp [named]
  rw [ofMembers_eq, fields?, nameless, if_neg (by decide), mapM_eq_some_iff]
  simp only [List.map_append, List.map_map]
  congr 1
  · apply List.map_congr_left
    intro member listed
    exact fieldOf?_named_of_mem distinctMembers listed
  · apply List.map_congr_left
    intro name listed
    apply fieldOf?_named_of_not_mem
    intro present
    exact apart name present name listed rfl

/-! ## Numbers of 64 bits -/

theorem wholeValue?_decimal (number : Nat) : wholeValue? (Text.decimal number) = some number := by
  have digits : (Text.decimal number).any (!·.isDigit) = false := by
    rw [List.any_eq_false]
    intro char member
    simp [Text.isDigit_of_mem_decimal member]
  simp [wholeValue?, Text.decimal_ne_nil, digits]

theorem nat64?_ofNat {number : Nat} (fits : number < 18446744073709551616) :
    (ofNat number).nat64? = some number := by
  simp [ofNat, nat64?, Text.showNat, wholeValue?_decimal, fits]

theorem lt_of_nat64? {value : Json} {number : Nat} (read : value.nat64? = some number) :
    number < 18446744073709551616 := by
  cases value with
  | number numeral =>
      obtain ⟨whole, _, bounded⟩ := Option.bind_eq_some_iff.mp read
      split at bounded
      · rename_i small
        cases bounded
        exact small
      · contradiction
  | _ => simp [nat64?] at read

theorem int64?_ofInt {number : Int} (least : -9223372036854775808 ≤ number)
    (most : number < 9223372036854775808) : (ofInt number).int64? = some number := by
  rw [ofInt]
  split
  · rename_i negative
    have bounded : number.natAbs ≠ 0 ∧ number.natAbs ≤ 9223372036854775808 := by
      omega
    have back : -(number.natAbs : Int) = number := by
      omega
    have numeral : ("-" ++ Text.showNat number.natAbs).toList =
        '-' :: Text.decimal number.natAbs := by
      simp [Text.showNat]
    rw [int64?, numeral]
    simp only [wholeValue?_decimal, Option.bind_some, if_pos bounded, back]
  · rename_i natural
    have small : number.natAbs < 9223372036854775808 := by
      omega
    have back : (number.natAbs : Int) = number := by
      omega
    obtain ⟨first, digits, shape, digit⟩ := exists_decimal_eq_cons number.natAbs
    rw [ofNat, int64?, Text.showNat, String.toList_ofList]
    split
    · rename_i same
      rw [shape] at same
      exact absurd (List.cons.inj same).1 (ne_of_isDigit digit (by decide))
    · rw [wholeValue?_decimal, Option.bind_some, if_pos small, back]

theorem bounds_of_int64? {value : Json} {number : Int} (read : value.int64? = some number) :
    -9223372036854775808 ≤ number ∧ number < 9223372036854775808 := by
  cases value with
  | number numeral =>
      rw [int64?] at read
      split at read
      · obtain ⟨whole, _, bounded⟩ := Option.bind_eq_some_iff.mp read
        split at bounded
        · cases bounded
          omega
        · contradiction
      · obtain ⟨whole, _, bounded⟩ := Option.bind_eq_some_iff.mp read
        split at bounded
        · cases bounded
          omega
        · contradiction
  | _ => simp [int64?] at read

end Json

/-! ## Violations -/

namespace LoggedViolation

theorem nodup_fieldNames : fieldNames.Nodup := by
  decide

theorem fields?_toJson (violation : LoggedViolation) :
    violation.toJson.fields? fieldNames =
      some [some (.ofString violation.ruleId), some (.ofString violation.path),
        some (.ofNat violation.line), some violation.severity.toJson,
        some (.ofString violation.message), violation.sourceLine.map Json.ofString] := by
  rw [toJson]
  cases violation.sourceLine with
  | none => exact Json.fields?_ofMembers ["source_line"] rfl nodup_fieldNames
  | some line => exact Json.fields?_ofMembers [] rfl nodup_fieldNames

/-- A violation is read back from its value. -/
theorem ofJson?_toJson {violation : LoggedViolation}
    (fits : violation.line < 18446744073709551616) :
    ofJson? violation.toJson = some violation := by
  have lineRead : sourceLineOf? (violation.sourceLine.map Json.ofString) =
      some violation.sourceLine := by
    cases violation.sourceLine <;> rfl
  simp [ofJson?, fields?_toJson, Json.string?, Json.ofString, Json.nat64?_ofNat fits, lineRead]

theorem line_lt_of_ofJson? {value : Json} {violation : LoggedViolation}
    (read : ofJson? value = some violation) : violation.line < 18446744073709551616 := by
  obtain ⟨fields, _, made⟩ := Option.bind_eq_some_iff.mp read
  split at made
  · simp only [Option.bind_eq_bind, Option.bind_eq_some_iff, Option.pure_def,
      Option.some.injEq] at made
    obtain ⟨_, _, _, _, line, lineRead, _, _, _, _, _, _, rfl⟩ := made
    exact Json.lt_of_nat64? lineRead
  · contradiction

theorem plain_toJson (violation : LoggedViolation) : violation.toJson.Plain := by
  apply Json.Plain.object
  cases violation.sourceLine <;>
    simp [Json.Plain.string, Json.Plain.whole, Severity.toJson]

end LoggedViolation

/-! ## Records -/

namespace RunRecord

/-- The numbers of a record fit into 64 bits: the moment with a sign, all others
without one. -/
structure Fits (record : RunRecord) : Prop where
  least : -9223372036854775808 ≤ record.timestamp
  most : record.timestamp < 9223372036854775808
  filesScanned : record.filesScanned < 18446744073709551616
  filesFailed : record.filesFailed < 18446744073709551616
  totalViolations : record.totalViolations < 18446744073709551616
  errorCount : record.errorCount < 18446744073709551616
  warningCount : record.warningCount < 18446744073709551616
  infoCount : record.infoCount < 18446744073709551616
  lines : ∀ violation ∈ record.violations, violation.line < 18446744073709551616

theorem nodup_fieldNames : fieldNames.Nodup := by
  decide

/-- A record is read back from its value. -/
theorem ofJson?_toJson {record : RunRecord} (fits : record.Fits) :
    ofJson? record.toJson = some record := by
  have violationsRead :
      (record.violations.map LoggedViolation.toJson).mapM LoggedViolation.ofJson? =
        some record.violations :=
    Json.mapM_map_eq_some fun violation member =>
      LoggedViolation.ofJson?_toJson (fits.lines violation member)
  have rulesRead : (record.enabledRules.map Json.ofString).mapM Json.string? =
      some record.enabledRules :=
    Json.mapM_map_eq_some fun _ _ => rfl
  rw [ofJson?, toJson, Json.fields?_ofMembers [] (by rfl) nodup_fieldNames]
  simp [Json.int64?_ofInt fits.least fits.most, Json.nat64?_ofNat fits.filesScanned,
    Json.nat64?_ofNat fits.filesFailed, Json.nat64?_ofNat fits.totalViolations,
    Json.nat64?_ofNat fits.errorCount, Json.nat64?_ofNat fits.warningCount,
    Json.nat64?_ofNat fits.infoCount, Json.string?, Json.ofString, Json.array?, violationsRead,
    rulesRead]

/-- The numbers of a record that was read fit into 64 bits. -/
theorem fits_of_ofJson? {value : Json} {record : RunRecord}
    (read : ofJson? value = some record) : record.Fits := by
  obtain ⟨fields, _, made⟩ := Option.bind_eq_some_iff.mp read
  split at made
  · simp only [Option.bind_eq_bind, Option.bind_eq_some_iff, Option.pure_def,
      Option.some.injEq] at made
    obtain ⟨timestamp, timestampRead, _, _, filesScanned, scannedRead, filesFailed, failedRead,
      totalViolations, totalRead, errorCount, errorsRead, warningCount, warningsRead,
      infoCount, infosRead, items, _, violations, violationsRead, _, _, _, _, rfl⟩ := made
    refine
      { least := (Json.bounds_of_int64? timestampRead).1
        most := (Json.bounds_of_int64? timestampRead).2
        filesScanned := Json.lt_of_nat64? scannedRead
        filesFailed := Json.lt_of_nat64? failedRead
        totalViolations := Json.lt_of_nat64? totalRead
        errorCount := Json.lt_of_nat64? errorsRead
        warningCount := Json.lt_of_nat64? warningsRead
        infoCount := Json.lt_of_nat64? infosRead
        lines := ?_ }
    intro violation member
    obtain ⟨item, _, itemRead⟩ := Json.exists_of_mapM_eq_some violationsRead violation member
    exact LoggedViolation.line_lt_of_ofJson? itemRead
  · contradiction

theorem plain_toJson (record : RunRecord) : record.toJson.Plain := by
  have violations : (Json.array (record.violations.map LoggedViolation.toJson)).Plain := by
    apply Json.Plain.array
    intro item member
    obtain ⟨violation, _, rfl⟩ := List.mem_map.mp member
    exact violation.plain_toJson
  have rules : (Json.array (record.enabledRules.map Json.ofString)).Plain := by
    apply Json.Plain.array
    intro item member
    obtain ⟨id, _, rfl⟩ := List.mem_map.mp member
    exact .string id
  apply Json.Plain.object
  simp [Json.plain_ofInt, Json.Plain.string, Json.Plain.whole, violations, rules]

/-- A record is read back from its line. -/
theorem ofLine?_line {record : RunRecord} (fits : record.Fits) :
    ofLine? record.line = some record := by
  rw [ofLine?, line, String.toList_ofList, Json.parse?_compact record.plain_toJson,
    Option.bind_some, ofJson?_toJson fits]

theorem fits_of_ofLine? {text : String} {record : RunRecord}
    (read : ofLine? text = some record) : record.Fits := by
  obtain ⟨value, _, valueRead⟩ := Option.bind_eq_some_iff.mp read
  exact fits_of_ofJson? valueRead

/-- Neither a line feed nor any other control character stands in a line. -/
theorem printable_line (record : RunRecord) :
    ∀ char ∈ record.line.toList, 0x20 ≤ char.toNat := by
  rw [line, String.toList_ofList]
  exact record.plain_toJson.printable

theorem lineFeed_not_mem_line (record : RunRecord) : '\n' ∉ record.line.toList := by
  intro member
  have printable := record.printable_line '\n' member
  revert printable
  decide

end RunRecord

end DecoratorLint
