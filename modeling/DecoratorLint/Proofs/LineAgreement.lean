import DecoratorLint.Proofs.DecoratorStart
import DecoratorLint.Proofs.DirectiveMeaning
import DecoratorLint.Proofs.ExitStatus
import DecoratorLint.Proofs.ReportAgreement

/-!
# One notion of lines

The line of a violation is counted from its offset, a comment speaks for the line on which
it is written, and the line that is shown is looked up in the file by its number.  All three
mean the same line of the text: the one in whose bytes the offset lies.

A violation stands where a decorator starts, and that is at a character that can be seen.  So
the line that is shown with it is never empty while its file stays as it was.
-/

namespace DecoratorLint

open Source (Expr Stmt)
open Text (CharAt InSpan LineAt VisibleAt)

/-! ## Comments and shown lines -/

namespace Text.LineAt

variable {source : String} {number : Nat} {before content terminator after : List Char}

/-- A line is recorded for every rule when its own directive names no id. -/
theorem mem_everyRule_iff (located : LineAt source.toList number before content terminator after) :
    number ∈ (Suppression.ofSource source.toList).everyRule ↔ Suppression.NamesNone content := by
  have present := located.getElem?_lines
  rw [located.number_eq] at present ⊢
  exact Suppression.mem_everyRule_iff_of_line present

/-- A line is recorded for the ids that its own directive names. -/
theorem mem_idsAt_iff (located : LineAt source.toList number before content terminator after)
    (id : String) :
    id ∈ (Suppression.ofSource source.toList).idsAt number ↔ Suppression.NamesId content id := by
  have present := located.getElem?_lines
  rw [located.number_eq] at present ⊢
  exact Suppression.mem_idsAt_iff_of_line present

/-- The line that is shown for a number is the line with this number, without the blanks at
its ends. -/
theorem lineOf_load (located : LineAt source.toList number before content terminator after)
    {system : FileSystem} {path : String} (readable : system.read path = .ok source) :
    SourceLines.lineOf (SourceLines.load system path) number =
      String.ofList (Text.trim content) := by
  have present := located.getElem?_lines
  rw [SourceLines.load, readable]
  simp [Except.map, SourceLines.lineOf, SourceLines.trimmedLines, present]

end Text.LineAt

/-! ## Where violations stand -/

/-- A decorator that is a use is a name, a member or a call. -/
theorem Use.holds_offset {holds : Nat → Prop} {decorator : Expr} {use : Use}
    (lowers : ofDecorator? decorator = some use) (start : decorator.StartsAt holds) :
    holds use.offset := by
  rw [(of_ofDecorator?_eq_some lowers).2]
  cases decorator with
  | name => exact start
  | member => exact start
  | call => exact start
  | starred => contradiction
  | compound => contradiction

/-- A violation is told with the line of its offset, and a character that can be seen starts
there. -/
theorem of_mem_violations_lintFile {system : FileSystem} {rules : List Rule} {path : String}
    {source : String} {violation : Violation} (readable : system.read path = .ok source)
    (found : violation ∈ (lintFile system rules path).violations) :
    violation.path = path ∧
      violation.line = Text.lineOfOffset source.toList violation.offset ∧
        VisibleAt source.toList violation.offset := by
  obtain ⟨other, program, same, -, parsed, found⟩ := mem_violations_lintFile_iff.mp found
  cases readable.symm.trans same
  obtain ⟨place, decorator, use, rule, occurs, lowers, -, complains, -⟩ :=
    mem_programViolations_iff.mp found
  obtain ⟨-, -, rfl⟩ := Rule.violation?_eq_some_iff.mp complains
  have member := Source.mem_bodyDecorators_iff.mpr ⟨place, occurs⟩
  exact ⟨rfl, rfl, Use.holds_offset lowers (Source.startsAt_of_parse? parsed member)⟩

/-- The line at which a violation stands is not empty while its file stays as it was. -/
theorem isSome_sourceLine {checked logged : FileSystem} {rules : List Rule} {paths : List String}
    {moment : Int} {ids : List String} {entry : LoggedViolation}
    (listed : entry ∈
      (RunRecord.ofReports moment logged (lintFiles checked rules paths) ids).violations)
    (unchanged : logged.read entry.path = checked.read entry.path) :
    entry.sourceLine.isSome = true := by
  simp only [RunRecord.ofReports, findingsOf_eq, List.map_map, List.mem_map] at listed
  obtain ⟨violation, found, rfl⟩ := listed
  obtain ⟨report, inReports, found⟩ := List.mem_flatMap.mp found
  obtain ⟨path, -, rfl⟩ := List.mem_map.mp inReports
  obtain ⟨source, -, readable, -⟩ := mem_violations_lintFile_iff.mp found
  obtain ⟨own, line_eq, char, placed, visible⟩ := of_mem_violations_lintFile readable found
  obtain ⟨before, content, terminator, after, located, span⟩ :=
    Text.exists_lineAt source.toList placed.lt_byteLength
  have shown := located.mem_trim span placed visible
  have still : logged.read violation.path = .ok source := by
    rw [← readable, ← own]
    exact unchanged
  have line : lineAt logged violation = String.ofList (Text.trim content) := by
    rw [lineAt, line_eq]
    exact located.lineOf_load still
  have nonempty : lineAt logged violation ≠ "" := by
    rw [line, ← String.toList_inj.ne, String.toList_ofList]
    exact List.ne_nil_of_mem shown
  rw [Function.comp_apply, LoggedViolation.ofFinding, LoggedViolation.shownLine?, if_neg nonempty]
  rfl

/-! ## Agreement -/

/-- The notions of a line agree.  The number that is counted for an offset inside a text is
that of a line, and the offset lies in the bytes of this line, its terminator included.  The
comment on this line is recorded under the number, and the line that is shown for the number
is this line without the blanks at its ends; it shows the character that starts at the
offset, unless that is blank.

Later offsets are on later lines, and from the end of the text on the line stays.  Every
violation is told with the line of its offset, where a character can be seen, so the record
of a run leaves out no line of a file that is still as it was checked. -/
theorem lines_agree (source : String) :
    let text := source.toList
    let suppression := Suppression.ofSource text
    (∀ offset < Text.byteLength text, ∃ before content terminator after,
      let number := Text.lineOfOffset text offset
      1 ≤ number ∧ number ≤ (Text.lines text).length ∧
      LineAt text number before content terminator after ∧
      InSpan before (content ++ terminator) offset ∧
      (number ∈ suppression.everyRule ↔ Suppression.NamesNone content) ∧
      (∀ id, id ∈ suppression.idsAt number ↔ Suppression.NamesId content id) ∧
      (∀ cache system path, SourceLines.Current cache system → system.read path = .ok source →
        (cache.get system path number).1 = String.ofList (Text.trim content)) ∧
      ∀ char, CharAt text offset char → Text.isBlank char = false →
        char ∈ Text.trim content) ∧
    (∀ first second, first ≤ second →
      Text.lineOfOffset text first ≤ Text.lineOfOffset text second) ∧
    (∀ offset, Text.byteLength text ≤ offset →
      Text.lineOfOffset text offset = Text.lineOfOffset text (Text.byteLength text)) ∧
    (∀ system rules path, system.read path = .ok source →
      ∀ violation ∈ (lintFile system rules path).violations,
        violation.line = Text.lineOfOffset text violation.offset ∧
          VisibleAt text violation.offset) ∧
    ∀ checked logged rules paths moment ids,
      ∀ entry ∈
        (RunRecord.ofReports moment logged (lintFiles checked rules paths) ids).violations,
        checked.read entry.path = .ok source → logged.read entry.path = .ok source →
          entry.sourceLine.isSome = true := by
  intro text suppression
  refine ⟨?_, ?_, ?_, ?_, ?_⟩
  · intro offset inside
    obtain ⟨before, content, terminator, after, located, span⟩ := Text.exists_lineAt text inside
    refine ⟨before, content, terminator, after, Nat.succ_pos _, located.number_le, located, span,
      located.mem_everyRule_iff, located.mem_idsAt_iff, ?_, ?_⟩
    · intro cache system path current readable
      rw [(SourceLines.get_of_current current path _).1]
      exact located.lineOf_load readable
    · intro char placed visible
      exact located.mem_trim span placed visible
  · intro first second le
    exact Text.lineOfOffset_mono text le
  · intro offset behind
    exact Text.lineOfOffset_of_le behind
  · intro system rules path readable violation found
    exact (of_mem_violations_lintFile readable found).2
  · intro checked logged rules paths moment ids entry listed before after
    exact isSome_sourceLine listed (after.trans before.symm)

/-- A decorator behind a wide character, a line with both terminators and a tab. -/
theorem lines_agree_behind_wide_char :
    let source := "é\r\n\t@job # noqa: a1\r\nx"
    let system : FileSystem := { root := .folder [("a.py", .file (.text source))] }
    Text.lineOfOffset source.toList 5 = 2 ∧
      CharAt source.toList 5 '@' ∧
      ∃ content, (Text.lines source.toList)[1]? = some content ∧ '@' ∈ Text.trim content ∧
        (SourceLines.get {} system "a.py" 2).1 = String.ofList (Text.trim content) ∧
        Suppression.NamesId content "A1" := by
  intro source system
  have number : Text.lineOfOffset source.toList 5 = 2 := by decide +kernel
  have placed : CharAt source.toList 5 '@' :=
    ⟨"é\r\n\t".toList, "job # noqa: a1\r\nx".toList, by decide +kernel, by decide +kernel⟩
  have readable : system.read "a.py" = .ok source := by decide +kernel
  obtain ⟨lines, -⟩ := lines_agree source
  obtain ⟨before, content, terminator, after, -, -, located, -, -, named, shown, visible⟩ :=
    lines 5 placed.lt_byteLength
  rw [number] at located named shown
  refine ⟨number, placed, content, located.getElem?_lines, visible '@' placed (by decide), ?_, ?_⟩
  · exact shown {} system "a.py" (SourceLines.current_empty system) readable
  · refine (named "A1").mp ?_
    decide +kernel

end DecoratorLint
