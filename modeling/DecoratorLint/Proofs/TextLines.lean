import DecoratorLint.Text.Lines
import Mathlib.Data.List.Basic

/-!
# Facts about lines

A text is empty, a last line without a line feed, or a line with its line feed
before another text.  Facts about the lines of a text follow this split.

The main one is about editing: text that is put in at the end of a line, before
its terminator, ends up in the content of that line and nowhere else.  The number
of lines and the contents of the other lines stay.
-/

namespace DecoratorLint.Text

/-! ## Lines of offsets -/

theorem lineFeedsBefore_mono (text : List Char) {first second : Nat} (le : first ≤ second) :
    lineFeedsBefore text first ≤ lineFeedsBefore text second := by
  induction text generalizing first second with
  | nil => exact Nat.le_refl 0
  | cons char rest ih =>
      have inner := ih (Nat.sub_le_sub_right le char.utf8Size)
      rw [lineFeedsBefore, lineFeedsBefore]
      by_cases atStart : first = 0
      · rw [if_pos atStart]
        exact Nat.zero_le _
      · have later : second ≠ 0 := by omega
        rw [if_neg atStart, if_neg later]
        exact Nat.add_le_add_left inner _

/-- A later offset is never on an earlier line. -/
theorem lineOfOffset_mono (text : List Char) {first second : Nat} (le : first ≤ second) :
    lineOfOffset text first ≤ lineOfOffset text second :=
  Nat.add_le_add_right (lineFeedsBefore_mono text le) 1

/-! ## The split of a text into lines -/

/-- Induction along the lines of a text. -/
theorem line_induction {motive : List Char → Prop} (empty : motive [])
    (last : ∀ content, content ≠ [] → '\n' ∉ content → motive content)
    (line : ∀ content rest, '\n' ∉ content → motive rest → motive (content ++ '\n' :: rest))
    (text : List Char) : motive text := by
  induction size : text.length using Nat.strongRecOn generalizing text with
  | ind bound ih =>
      by_cases ended : '\n' ∈ text
      · obtain ⟨content, rest, rfl, absent⟩ := List.eq_append_cons_of_mem ended
        apply line content rest absent
        apply ih rest.length
        · simp only [List.length_append, List.length_cons] at size
          omega
        · rfl
      · by_cases isEmpty : text = []
        · subst text
          exact empty
        · exact last text isEmpty ended

theorem physicalLines_append_lineFeed {content : List Char} (absent : '\n' ∉ content)
    (rest : List Char) :
    physicalLines (content ++ '\n' :: rest) = (content ++ ['\n']) :: physicalLines rest := by
  induction content with
  | nil => rfl
  | cons char content ih =>
      have differs : char ≠ '\n' := by
        rintro rfl
        exact absent List.mem_cons_self
      have inner := ih fun member => absent (List.mem_cons_of_mem char member)
      rw [List.cons_append, physicalLines, if_neg differs, inner]
      rfl

theorem physicalLines_of_not_mem {content : List Char} (nonempty : content ≠ [])
    (absent : '\n' ∉ content) : physicalLines content = [content] := by
  induction content with
  | nil => contradiction
  | cons char content ih =>
      have differs : char ≠ '\n' := by
        rintro rfl
        exact absent List.mem_cons_self
      rw [physicalLines, if_neg differs]
      by_cases isEmpty : content = []
      · subst content
        rfl
      · rw [ih isEmpty fun member => absent (List.mem_cons_of_mem char member)]

/-! ## Contents and terminators -/

theorem lineContent_of_not_mem {line : List Char} (absent : '\n' ∉ line) :
    lineContent line = line := by
  have reversed : '\n' ∉ line.reverse := by
    simpa using absent
  rw [lineContent]
  split
  · rename_i rest shape
    rw [shape] at reversed
    simp at reversed
  · rename_i rest _ shape
    rw [shape] at reversed
    simp at reversed
  · rfl

/-- The content of a line with a line feed, where no carriage return stands
before it. -/
theorem lineContent_append_lineFeed {stem : List Char} (plain : stem.getLast? ≠ some '\r') :
    lineContent (stem ++ ['\n']) = stem := by
  rw [lineContent, List.reverse_append, List.reverse_singleton, List.singleton_append]
  split
  · rename_i rest shape
    have ends : stem.reverse.head? = some '\r' := by
      rw [List.cons.inj shape |>.2]
      rfl
    rw [List.head?_reverse] at ends
    contradiction
  · rename_i rest _ shape
    rw [← (List.cons.inj shape).2, List.reverse_reverse]
  · rename_i other
    exact absurd rfl (other stem.reverse)

theorem lineContent_append_carriageReturn (stem : List Char) :
    lineContent (stem ++ ['\r', '\n']) = stem := by
  simp [lineContent]

/-- What ends a line: a line feed, with the carriage return before it if there is
one, or nothing. -/
def lineTerminator (line : List Char) : List Char :=
  line.drop (lineContent line).length

/-- A line with a line feed is its content and one of two terminators.  A content
before a bare line feed does not end in a carriage return. -/
theorem line_cases (content : List Char) :
    ∃ stem terminator, content ++ ['\n'] = stem ++ terminator ∧
      lineContent (content ++ ['\n']) = stem ∧ lineTerminator (content ++ ['\n']) = terminator ∧
        (terminator = ['\n'] ∨ terminator = ['\r', '\n']) := by
  by_cases returned : content.getLast? = some '\r'
  · obtain ⟨stem, rfl⟩ := List.getLast?_eq_some_iff.mp returned
    have content_eq : lineContent (stem ++ ['\r'] ++ ['\n']) = stem := by
      simpa using lineContent_append_carriageReturn stem
    refine ⟨stem, ['\r', '\n'], by simp, content_eq, ?_, Or.inr rfl⟩
    rw [lineTerminator, content_eq, List.append_assoc, List.drop_left]
    rfl
  · have content_eq := lineContent_append_lineFeed returned
    refine ⟨content, ['\n'], rfl, content_eq, ?_, Or.inl rfl⟩
    rw [lineTerminator, content_eq, List.drop_left]

/-! ## Adding text to a line -/

/-- Put text in at the end of the line with the given index, before its
terminator. -/
def appendToLine (index : Nat) (addition text : List Char) : List Char :=
  ((physicalLines text).modify index fun line =>
    lineContent line ++ addition ++ lineTerminator line).flatten

theorem lines_append_lineFeed {content : List Char} (absent : '\n' ∉ content)
    (rest : List Char) :
    lines (content ++ '\n' :: rest) = lineContent (content ++ ['\n']) :: lines rest := by
  rw [lines, physicalLines_append_lineFeed absent, List.map_cons, lines]

theorem lines_of_not_mem {content : List Char} (nonempty : content ≠ [])
    (absent : '\n' ∉ content) : lines content = [content] := by
  rw [lines, physicalLines_of_not_mem nonempty absent, List.map_singleton,
    lineContent_of_not_mem absent]

theorem appendToLine_zero {content : List Char} (absent : '\n' ∉ content)
    (addition rest : List Char) :
    appendToLine 0 addition (content ++ '\n' :: rest) =
      lineContent (content ++ ['\n']) ++ addition ++ lineTerminator (content ++ ['\n']) ++
        rest := by
  rw [appendToLine, physicalLines_append_lineFeed absent, List.modify_zero_cons,
    List.flatten_cons, flatten_physicalLines]

theorem appendToLine_succ {content : List Char} (absent : '\n' ∉ content) (index : Nat)
    (addition rest : List Char) :
    appendToLine (index + 1) addition (content ++ '\n' :: rest) =
      content ++ '\n' :: appendToLine index addition rest := by
  rw [appendToLine, physicalLines_append_lineFeed absent, List.modify_succ_cons,
    List.flatten_cons, appendToLine, List.append_assoc, List.singleton_append]

/-! The text that is added has no line feed, and its last character is not a
carriage return: both would move the end of the line. -/

section Addition

variable {addition : List Char} (unbroken : '\n' ∉ addition) (nonempty : addition ≠ [])
  (plain : addition.getLast? ≠ some '\r')

include unbroken nonempty in
theorem lines_appendToLine_last {content : List Char} (contentNonempty : content ≠ [])
    (absent : '\n' ∉ content) (index : Nat) :
    lines (appendToLine index addition content) = (lines content).modify index (· ++ addition) := by
  have physical := physicalLines_of_not_mem contentNonempty absent
  rw [lines_of_not_mem contentNonempty absent]
  cases index with
  | zero =>
      have edited : appendToLine 0 addition content = content ++ addition := by
        simp [appendToLine, physical, lineTerminator, lineContent_of_not_mem absent]
      have editedAbsent : '\n' ∉ content ++ addition := by
        simp [absent, unbroken]
      rw [edited, lines_of_not_mem (by simp [nonempty]) editedAbsent, List.modify_zero_cons]
  | succ index =>
      have edited : appendToLine (index + 1) addition content = content := by
        simp [appendToLine, physical]
      rw [edited, lines_of_not_mem contentNonempty absent, List.modify_succ_cons, List.modify_nil]

include unbroken nonempty plain in
theorem lines_appendToLine_zero {content : List Char} (absent : '\n' ∉ content)
    (rest : List Char) :
    lines (appendToLine 0 addition (content ++ '\n' :: rest)) =
      (lineContent (content ++ ['\n']) ++ addition) :: lines rest := by
  obtain ⟨stem, terminator, split, content_eq, terminator_eq, shape⟩ := line_cases content
  rw [appendToLine_zero absent, content_eq, terminator_eq]
  rcases shape with rfl | rfl
  · have stem_eq : content = stem := List.append_cancel_right split
    subst stem_eq
    have ends : (content ++ addition).getLast? ≠ some '\r' := by
      rwa [List.getLast?_append_of_ne_nil _ nonempty]
    rw [List.append_assoc, List.singleton_append,
      lines_append_lineFeed (by simp [absent, unbroken]), lineContent_append_lineFeed ends]
  · -- The carriage return stays at the end of the line, after the addition.
    have whole : content ++ ['\n'] = (stem ++ ['\r']) ++ ['\n'] := by
      simpa using split
    have stem_eq : content = stem ++ ['\r'] := List.append_cancel_right whole
    subst stem_eq
    have stemAbsent : '\n' ∉ stem := fun member => absent (List.mem_append_left _ member)
    have regrouped : stem ++ addition ++ ['\r', '\n'] ++ rest =
        (stem ++ addition ++ ['\r']) ++ '\n' :: rest := by
      simp
    have edited : lineContent (stem ++ addition ++ ['\r'] ++ ['\n']) = stem ++ addition := by
      simpa using lineContent_append_carriageReturn (stem ++ addition)
    rw [regrouped, lines_append_lineFeed (by simp [stemAbsent, unbroken]), edited]

include unbroken nonempty plain in
/-- Text that is put in at the end of a line becomes part of the content of that
line.  All other lines stay. -/
theorem lines_appendToLine (index : Nat) (text : List Char) :
    lines (appendToLine index addition text) = (lines text).modify index (· ++ addition) := by
  induction text using line_induction generalizing index with
  | empty => simp [appendToLine]
  | last content contentNonempty absent =>
      exact lines_appendToLine_last unbroken nonempty contentNonempty absent index
  | line content rest absent ih =>
      rw [lines_append_lineFeed absent]
      cases index with
      | zero =>
          rw [lines_appendToLine_zero unbroken nonempty plain absent, List.modify_zero_cons]
      | succ index =>
          rw [appendToLine_succ absent, lines_append_lineFeed absent, ih, List.modify_succ_cons]

end Addition

end DecoratorLint.Text
