import DecoratorLint.Proofs.FilePlaces
import DecoratorLint.Proofs.RunRecordLine
import DecoratorLint.Proofs.TextLines
import DecoratorLint.RunLog.LogFile

/-!
# Histories of log files

Log files are opened, any number of times and by any paths, and records are added
through them.  Such a history leaves one line in a file for each record that was
added to it, in the order in which they were added, and every line can be read.
-/

namespace DecoratorLint

/-- Log files that were opened one after the other, and the records that were added
through them in between, from the files at the start to those at the end. -/
inductive LogHistory (start : FileSystem) :
    List LogFile → List (LogFile × RunRecord) → FileSystem → Prop where
  | start : LogHistory start [] [] start
  | opening {files : List LogFile} {calls : List (LogFile × RunRecord)}
      {system opened : FileSystem} {path : String} {file : LogFile}
      (history : LogHistory start files calls system)
      (done : LogFile.openAt system path = .ok (opened, file)) :
      LogHistory start (files ++ [file]) calls opened
  | adding {files : List LogFile} {calls : List (LogFile × RunRecord)}
      {system written : FileSystem} {file : LogFile} {record : RunRecord}
      (history : LogHistory start files calls system) (isOpen : file ∈ files)
      (done : file.write system record = .ok written) :
      LogHistory start files (calls ++ [(file, record)]) written

/-! ## One step -/

namespace LogFile

theorem grows_makeParent {system prepared : FileSystem} {path : String}
    (done : makeParent system path = .ok prepared) : system.Grows prepared := by
  rw [makeParent] at done
  split at done
  · cases done
    exact .refl system
  · split at done
    · cases done
      exact .refl system
    · exact FileSystem.grows_makeFoldersUpTo done

/-- An open log file is a file at a place to which its path leads. -/
structure IsOpen (file : LogFile) (system : FileSystem) (place : List String) : Prop where
  atPlace : file.place = some place
  located : system.locate file.path = .ok place
  isFile : ∃ content, system.nodeAt? place = some (.file content)

theorem IsOpen.keeps {file : LogFile} {before after : FileSystem} {place : List String}
    (isOpen : file.IsOpen before place) (keeps : before.Keeps after) :
    file.IsOpen after place := by
  obtain ⟨content, found⟩ := isOpen.isFile
  exact ⟨isOpen.atPlace, keeps.locate isOpen.located, keeps.file place content found⟩

theorem of_openAt {system opened : FileSystem} {path : String} {file : LogFile}
    (done : openAt system path = .ok (opened, file)) :
    system.Grows opened ∧ ∃ place, file.IsOpen opened place := by
  rw [openAt] at done
  obtain ⟨prepared, parent, done⟩ := bind_eq_ok_iff.mp done
  obtain ⟨⟨after, place⟩, target, done⟩ := bind_eq_ok_iff.mp done
  cases done
  obtain ⟨grows, isFile, located⟩ := FileSystem.of_openForAppend target
  exact ⟨(grows_makeParent parent).trans grows, place, rfl, located, isFile⟩

/-- Adding a record to an open log file succeeds if there is room, and it adds the
line of the record at the end of the file. -/
theorem of_write {file : LogFile} {system written : FileSystem} {place : List String}
    (isOpen : file.IsOpen system place) {record : RunRecord}
    (done : file.write system record = .ok written) {content : Content}
    (found : system.nodeAt? place = some (.file content)) :
    system.Keeps written ∧
      ∀ other, written.nodeAt? other =
        if other = place then some (.file (content.append (record.line ++ "\n")))
        else system.nodeAt? other := by
  rw [write] at done
  split at done
  · contradiction
  · cases done
    rw [append, isOpen.atPlace]
    exact ⟨FileSystem.keeps_appendAt found _, FileSystem.nodeAt?_appendAt found _⟩

/-- Where a record was added, there is room for the next one. -/
theorem full_of_write {file : LogFile} {system written : FileSystem} {record : RunRecord}
    (done : file.write system record = .ok written) : written.full = false := by
  rw [write] at done
  split at done
  · contradiction
  · rename_i room
    cases done
    rw [append]
    split
    · rw [FileSystem.full_appendAt]
      simpa using room
    · simpa using room

end LogFile

/-! ## The text of a log file -/

/-- The lines of records, with their ends. -/
def logText (records : List RunRecord) : String :=
  String.ofList (records.flatMap fun record => (record.line ++ "\n").toList)

@[simp]
theorem logText_nil : logText [] = "" :=
  rfl

theorem logText_concat (records : List RunRecord) (record : RunRecord) :
    logText (records ++ [record]) = logText records ++ (record.line ++ "\n") := by
  simp [logText]

/-- The lines of the text are the lines of the records. -/
theorem lines_logText (records : List RunRecord) :
    Text.lines (logText records).toList = records.map (·.line.toList) := by
  rw [logText, String.toList_ofList]
  induction records with
  | nil => rfl
  | cons record records ih =>
      have absent := record.lineFeed_not_mem_line
      have plain : record.line.toList.getLast? ≠ some '\r' := by
        intro last
        have printable := record.printable_line '\r' (List.mem_of_getLast? last)
        revert printable
        decide
      have split : (record :: records).flatMap (fun record => (record.line ++ "\n").toList) =
          record.line.toList ++
            '\n' :: records.flatMap fun record => (record.line ++ "\n").toList := by
        simp
      rw [split, Text.lines_append_lineFeed absent, Text.lineContent_append_lineFeed plain, ih,
        List.map_cons]

/-! ## Whole histories -/

/-- The records that were added to the file at a place. -/
def recordsAt (place : List String) (calls : List (LogFile × RunRecord)) : List RunRecord :=
  (calls.filter (·.1.place = some place)).map Prod.snd

theorem recordsAt_concat_self {place : List String} {file : LogFile}
    (here : file.place = some place)
    (calls : List (LogFile × RunRecord)) (record : RunRecord) :
    recordsAt place (calls ++ [(file, record)]) = recordsAt place calls ++ [record] := by
  simp [recordsAt, List.filter_append, here]

theorem recordsAt_concat_other {place : List String} {file : LogFile}
    (elsewhere : file.place ≠ some place) (calls : List (LogFile × RunRecord))
    (record : RunRecord) :
    recordsAt place (calls ++ [(file, record)]) = recordsAt place calls := by
  simp [recordsAt, List.filter_append, elsewhere]

namespace LogHistory

variable {start system : FileSystem} {files : List LogFile} {calls : List (LogFile × RunRecord)}

/-- Every log file that was opened is still open. -/
theorem isOpen (history : LogHistory start files calls system) :
    ∀ file ∈ files, ∃ place, file.IsOpen system place := by
  induction history with
  | start => simp
  | opening history done ih =>
      obtain ⟨grows, opened⟩ := LogFile.of_openAt done
      intro file member
      rcases List.mem_append.mp member with member | member
      · obtain ⟨place, isOpen⟩ := ih file member
        exact ⟨place, isOpen.keeps grows.keeps⟩
      · rw [List.mem_singleton.mp member]
        exact opened
  | adding history isOpen done ih =>
      obtain ⟨target, targetOpen⟩ := ih _ isOpen
      obtain ⟨content, found⟩ := targetOpen.isFile
      intro file member
      obtain ⟨place, fileOpen⟩ := ih file member
      exact ⟨place, fileOpen.keeps (LogFile.of_write targetOpen done found).1⟩

/-- Records are added through log files that were opened. -/
theorem mem_files (history : LogHistory start files calls system) :
    ∀ call ∈ calls, call.1 ∈ files := by
  induction history with
  | start => simp
  | opening history done ih =>
      intro call member
      exact List.mem_append_left _ (ih call member)
  | adding history isOpen done ih =>
      intro call member
      rcases List.mem_append.mp member with member | member
      · exact ih call member
      · rw [List.mem_singleton.mp member]
        exact isOpen

/-- Nothing was added to a place where there is no file. -/
theorem recordsAt_eq_nil (history : LogHistory start files calls system) {place : List String}
    (absent : system.nodeAt? place = none) : recordsAt place calls = [] := by
  rw [recordsAt, List.map_eq_nil_iff, List.filter_eq_nil_iff]
  intro call member here
  obtain ⟨other, isOpen⟩ := history.isOpen call.1 (history.mem_files call member)
  obtain ⟨content, found⟩ := isOpen.isFile
  have same : other = place := by
    simpa [isOpen.atPlace] using here
  rw [same, absent] at found
  contradiction

/-- A file that was not there at the start, or was empty, holds the lines of the
records that were added to it. -/
theorem content_eq (history : LogHistory start files calls system) {place : List String}
    (fresh : start.nodeAt? place = none ∨ start.nodeAt? place = some (.file (.text "")))
    {content : Content} (found : system.nodeAt? place = some (.file content)) :
    content = .text (logText (recordsAt place calls)) := by
  induction history generalizing content with
  | start =>
      rcases fresh with absent | empty
      · rw [absent] at found
        contradiction
      · rw [empty] at found
        cases found
        rfl
  | opening history done ih =>
      rcases (LogFile.of_openAt done).1.file_cases found with old | ⟨absent, empty⟩
      · exact ih old
      · rw [empty, history.recordsAt_eq_nil absent, logText_nil]
  | adding history isOpen done ih =>
      rename_i system written file record
      obtain ⟨target, targetOpen⟩ := history.isOpen file isOpen
      obtain ⟨old, oldFound⟩ := targetOpen.isFile
      rw [(LogFile.of_write targetOpen done oldFound).2] at found
      split at found
      · rename_i here
        subst here
        cases found
        rw [ih oldFound, recordsAt_concat_self targetOpen.atPlace, logText_concat]
        rfl
      · rename_i elsewhere
        have other : file.place ≠ some place := by
          rw [targetOpen.atPlace]
          intro same
          exact elsewhere (Option.some.inj same).symm
        rw [ih found, recordsAt_concat_other other]

/-- The path of a log file leads to a text whose lines read as the records that were
added to it. -/
theorem exists_read_eq (history : LogHistory start files calls system)
    (fits : ∀ call ∈ calls, call.2.Fits) {file : LogFile} (member : file ∈ files)
    (fresh : ∀ place, file.place = some place →
      start.nodeAt? place = none ∨ start.nodeAt? place = some (.file (.text ""))) :
    ∃ text, system.read file.path = .ok text ∧
      (Text.lines text.toList).map (fun line => RunRecord.ofLine? (String.ofList line)) =
        (calls.filter (·.1.place = file.place)).map fun call => some call.2 := by
  obtain ⟨place, isOpen⟩ := history.isOpen file member
  obtain ⟨content, found⟩ := isOpen.isFile
  have lines := history.content_eq (fresh place isOpen.atPlace) found
  subst lines
  refine ⟨_, FileSystem.read_of_locate isOpen.located found, ?_⟩
  rw [lines_logText, List.map_map, recordsAt, List.map_map, isOpen.atPlace]
  apply List.map_congr_left
  intro call called
  simp only [Function.comp_apply, String.ofList_toList]
  exact RunRecord.ofLine?_line (fits call (List.mem_filter.mp called).1)

/-- Where there is room, a record can be added to every open log file.  The bytes of
the file stay and the line follows them; all other places stay as they are. -/
theorem exists_write_eq (history : LogHistory start files calls system) {file : LogFile}
    (member : file ∈ files) (room : system.full = false) (record : RunRecord) :
    ∃ written place content longer, file.write system record = .ok written ∧
      file.place = some place ∧ system.nodeAt? place = some (.file content) ∧
      written.nodeAt? place = some (.file longer) ∧
      longer.bytes = content.bytes ++ (record.line ++ "\n").toUTF8.data.toList ∧
      ∀ other, other ≠ place → written.nodeAt? other = system.nodeAt? other := by
  obtain ⟨place, isOpen⟩ := history.isOpen file member
  obtain ⟨content, found⟩ := isOpen.isFile
  have done : file.write system record = .ok (file.append system record) := by
    simp [LogFile.write, room]
  have seen := (LogFile.of_write isOpen done found).2
  refine ⟨_, place, content, _, done, isOpen.atPlace, found, ?_, Content.bytes_append _ _, ?_⟩
  · rw [seen, if_pos rfl]
  · intro other apart
    rw [seen, if_neg apart]

end LogHistory

/-- A record is written as one line and read back from it.  A log file that was not
there or was empty has a line for every record that was added to it, by whichever way
it was opened, and the lines read as these records in their order; each record only
adds bytes at the end.  Whatever text a record is read from, its own line reads as the
same record and is written in the same way again. -/
theorem readsBack_runLog :
    (∀ record : RunRecord, record.Fits →
      '\n' ∉ record.line.toList ∧ RunRecord.ofLine? record.line = some record) ∧
    (∀ (start system : FileSystem) (files : List LogFile) (calls : List (LogFile × RunRecord)),
      LogHistory start files calls system →
      (∀ call ∈ calls, call.2.Fits) → ∀ file ∈ files,
      (∀ place, file.place = some place →
        start.nodeAt? place = none ∨ start.nodeAt? place = some (.file (.text ""))) →
      ∃ text, system.read file.path = .ok text ∧
        (Text.lines text.toList).map (fun line => RunRecord.ofLine? (String.ofList line)) =
          (calls.filter (·.1.place = file.place)).map fun call => some call.2) ∧
    (∀ (start system : FileSystem) (files : List LogFile) (calls : List (LogFile × RunRecord)),
      LogHistory start files calls system → system.full = false →
      ∀ file ∈ files, ∀ record : RunRecord,
      ∃ written place content longer, file.write system record = .ok written ∧
        file.place = some place ∧ system.nodeAt? place = some (.file content) ∧
        written.nodeAt? place = some (.file longer) ∧
        longer.bytes = content.bytes ++ (record.line ++ "\n").toUTF8.data.toList ∧
        ∀ other, other ≠ place → written.nodeAt? other = system.nodeAt? other) ∧
    (∀ (text : String) (record : RunRecord), RunRecord.ofLine? text = some record →
      RunRecord.ofLine? record.line = some record ∧
        (RunRecord.ofLine? record.line).map RunRecord.line = some record.line) := by
  refine ⟨?_, ?_, ?_, ?_⟩
  · intro record fits
    exact ⟨record.lineFeed_not_mem_line, RunRecord.ofLine?_line fits⟩
  · intro start system files calls history fits file member fresh
    exact history.exists_read_eq fits member fresh
  · intro start system files calls history room file member record
    exact history.exists_write_eq member room record
  · intro text record read
    have again := RunRecord.ofLine?_line (RunRecord.fits_of_ofLine? read)
    exact ⟨again, by rw [again, Option.map_some]⟩

/-- A record with escapes in it, read from an array, and added to a log file through
each of two paths. -/
theorem readsBack_runLog_opened_twice :
    let text := "[-5,\"\\n\",2,1,1,0,1,0,[\x7b\"line\":3,\"x\":[],\"severity\":\"warning\"," ++
      "\"message\":\"\",\"file_path\":\"\",\"rule_id\":\"\\u0051\"\x7d], []]"
    let record : RunRecord :=
      { timestamp := -5, datetime := "\n", filesScanned := 2, filesFailed := 1,
        totalViolations := 1, errorCount := 0, warningCount := 1, infoCount := 0,
        violations :=
          [{ ruleId := "Q", path := "", line := 3, severity := .warning, message := ""
             sourceLine := none }]
        enabledRules := [] }
    let first : LogFile := { path := "log/run", place := some ["log", "run"] }
    let second : LogFile := { path := "./log//run", place := some ["log", "run"] }
    RunRecord.ofLine? text = some record ∧ record.Fits ∧
      '\n' ∉ record.line.toList ∧ RunRecord.ofLine? record.line = some record ∧
      ∃ system, LogHistory {} [first, second] [(first, record), (second, record)] system ∧
        ∃ written, system.read first.path = .ok written ∧
          (Text.lines written.toList).map (fun line => RunRecord.ofLine? (String.ofList line)) =
            [some record, some record] := by
  intro text record first second
  have read : RunRecord.ofLine? text = some record := by
    decide +kernel
  have fits : record.Fits := RunRecord.fits_of_ofLine? read
  have opens : (LogFile.openAt {} first.path).toOption.bind (fun (opened, one) =>
      (LogFile.openAt opened second.path).toOption.map fun (again, two) =>
        (one, two, again.full)) = some (first, second, false) := by
    decide +kernel
  obtain ⟨oneLine, filesRead, canAdd, _⟩ := readsBack_runLog
  cases openedFirst : LogFile.openAt {} first.path with
  | error cause => simp [openedFirst, Except.toOption] at opens
  | ok result =>
      obtain ⟨opened, one⟩ := result
      cases openedSecond : LogFile.openAt opened second.path with
      | error cause => simp [openedFirst, openedSecond, Except.toOption] at opens
      | ok result =>
          obtain ⟨again, two⟩ := result
          simp only [openedFirst, openedSecond, Except.toOption, Option.bind_some,
            Option.map_some, Option.some.injEq, Prod.mk.injEq] at opens
          obtain ⟨rfl, rfl, room⟩ := opens
          have bothOpen : LogHistory {} [first, second] [] again :=
            .opening (.opening .start openedFirst) openedSecond
          obtain ⟨middle, _, _, _, addedFirst, _⟩ :=
            canAdd _ _ _ _ bothOpen room first (by simp) record
          have oneAdded : LogHistory {} [first, second] [(first, record)] middle :=
            .adding bothOpen (by simp) addedFirst
          obtain ⟨last, _, _, _, addedSecond, _⟩ :=
            canAdd _ _ _ _ oneAdded (LogFile.full_of_write addedFirst) second (by simp) record
          have bothAdded : LogHistory {} [first, second] [(first, record), (second, record)] last :=
            .adding oneAdded (by simp) addedSecond
          have noLog : ∀ place, first.place = some place →
              ({} : FileSystem).nodeAt? place = none ∨
                ({} : FileSystem).nodeAt? place = some (.file (.text "")) := by
            rintro place ⟨⟩
            exact .inl rfl
          exact ⟨read, fits, (oneLine record fits).1, (oneLine record fits).2, last, bothAdded,
            filesRead _ _ _ _ bothAdded (by simp [fits]) first (by simp) noLog⟩

end DecoratorLint
