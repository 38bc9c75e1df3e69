import DecoratorLint.Proofs.TextLines
import DecoratorLint.Text.Blank
import Mathlib.Data.List.TakeWhile

/-!
# The line of an offset

A line takes up the bytes of its content and of its terminator, and the lines of a text
take up all of its bytes.  Counting line feeds finds the line in whose bytes an offset
lies: the line with the number that was counted holds the byte, and a character that
starts there is a character of this line.
-/

namespace DecoratorLint.Text

/-! ## Counting line feeds -/

/-- Behind a first part of a text all of its line feeds have been passed. -/
theorem lineFeedsBefore_append (first rest : List Char) {offset : Nat}
    (behind : byteLength first ≤ offset) :
    lineFeedsBefore (first ++ rest) offset =
      first.count '\n' + lineFeedsBefore rest (offset - byteLength first) := by
  induction first generalizing offset with
  | nil => simp
  | cons char first ih =>
      rw [byteLength_cons] at behind
      have wide := char.utf8Size_pos
      have inner := ih (show byteLength first ≤ offset - char.utf8Size by omega)
      rw [List.cons_append, lineFeedsBefore, if_neg (by omega), inner, byteLength_cons,
        List.count_cons, Nat.sub_sub]
      by_cases feed : char = '\n'
      · simp only [feed, beq_self_eq_true, if_true]
        omega
      · simp only [feed, beq_iff_eq, if_false]
        omega

/-- Inside a part without a line feed none has been passed. -/
theorem lineFeedsBefore_eq_zero {content : List Char} (absent : '\n' ∉ content)
    (rest : List Char) {offset : Nat} (inside : offset ≤ byteLength content) :
    lineFeedsBefore (content ++ rest) offset = 0 := by
  induction content generalizing offset with
  | nil =>
      have atStart : offset = 0 := Nat.le_zero.mp inside
      subst atStart
      cases rest <;> rfl
  | cons char content ih =>
      rw [byteLength_cons] at inside
      have differs : char ≠ '\n' := by
        rintro rfl
        exact absent List.mem_cons_self
      have inner := ih (fun member => absent (List.mem_cons_of_mem char member))
        (show offset - char.utf8Size ≤ byteLength content by omega)
      rw [List.cons_append, lineFeedsBefore, if_neg differs, inner]
      exact ite_self 0

/-- Up to the first line feed every offset is on the first line. -/
theorem lineOfOffset_of_le_content {content : List Char} (absent : '\n' ∉ content)
    (rest : List Char) {offset : Nat} (inside : offset ≤ byteLength content) :
    lineOfOffset (content ++ rest) offset = 1 := by
  rw [lineOfOffset, lineFeedsBefore_eq_zero absent rest inside]

/-- Behind the first line feed one line has been passed. -/
theorem lineOfOffset_behind {content : List Char} (absent : '\n' ∉ content) (rest : List Char)
    {offset : Nat} (behind : byteLength content < offset) :
    lineOfOffset (content ++ '\n' :: rest) offset =
      lineOfOffset rest (offset - (byteLength content + 1)) + 1 := by
  have size : byteLength (content ++ ['\n']) = byteLength content + 1 := by
    rw [byteLength_append]
    rfl
  have feeds : (content ++ ['\n']).count '\n' = 1 := by
    rw [List.count_append, List.count_eq_zero.mpr absent]
    rfl
  have reached : byteLength (content ++ ['\n']) ≤ offset := by omega
  have counted := lineFeedsBefore_append (content ++ ['\n']) rest reached
  rw [List.append_assoc, List.singleton_append, feeds, size] at counted
  rw [lineOfOffset, counted, lineOfOffset, Nat.add_comm 1]

/-- From the end of a text on the line stays the same. -/
theorem lineOfOffset_of_le {text : List Char} {offset : Nat} (behind : byteLength text ≤ offset) :
    lineOfOffset text offset = lineOfOffset text (byteLength text) := by
  have counted := lineFeedsBefore_append text [] behind
  have atEnd := lineFeedsBefore_append text [] (Nat.le_refl _)
  rw [List.append_nil] at counted atEnd
  rw [lineOfOffset, counted, lineOfOffset, atEnd]
  rfl

/-! ## The line that holds a byte -/

/-- A text taken apart at the line of the given number: what stands before the line, the
content of the line, its terminator, and what stands after it.  The lines of a text are
those before, this one, and those after. -/
structure LineAt (text : List Char) (number : Nat)
    (before content terminator after : List Char) : Prop where
  whole : text = before ++ (content ++ terminator ++ after)
  lines_eq : lines text = lines before ++ content :: lines after
  number_eq : number = (lines before).length + 1
  terminated : terminator = [] ∨ terminator = ['\n'] ∨ terminator = ['\r', '\n']

/-- Whether an offset is that of a byte of the line between two parts of a text. -/
def InSpan (before line : List Char) (offset : Nat) : Prop :=
  byteLength before ≤ offset ∧ offset < byteLength before + byteLength line

theorem LineAt.getElem?_lines {text : List Char} {number : Nat}
    {before content terminator after : List Char}
    (located : LineAt text number before content terminator after) :
    (lines text)[number - 1]? = some content := by
  rw [located.lines_eq, located.number_eq, Nat.add_sub_cancel, List.getElem?_append_right
    (Nat.le_refl _), Nat.sub_self]
  rfl

theorem LineAt.number_le {text : List Char} {number : Nat}
    {before content terminator after : List Char}
    (located : LineAt text number before content terminator after) :
    number ≤ (lines text).length := by
  rw [located.number_eq, located.lines_eq, List.length_append, List.length_cons]
  omega

/-- The line at the start of a text whose line feed is known. -/
theorem lineAt_first {content : List Char} (absent : '\n' ∉ content) (rest : List Char) :
    ∃ stem terminator, content ++ ['\n'] = stem ++ terminator ∧
      LineAt (content ++ '\n' :: rest) 1 [] stem terminator rest := by
  obtain ⟨stem, terminator, split, content_eq, -, shape⟩ := line_cases content
  have whole : content ++ '\n' :: rest = stem ++ terminator ++ rest := by
    rw [← split, List.append_assoc, List.singleton_append]
  refine ⟨stem, terminator, split, ?_⟩
  constructor
  · exact whole
  · rw [lines_append_lineFeed absent, content_eq, lines_nil, List.nil_append]
  · rfl
  · exact Or.inr shape

/-- A line of the text behind a line feed is a line of the whole text. -/
theorem LineAt.behind {rest : List Char} {number : Nat}
    {before content terminator after : List Char}
    (located : LineAt rest number before content terminator after) {first : List Char}
    (absent : '\n' ∉ first) :
    LineAt (first ++ '\n' :: rest) (number + 1) (first ++ '\n' :: before) content terminator
      after := by
  constructor
  · simp [located.whole]
  · rw [lines_append_lineFeed absent, lines_append_lineFeed absent, located.lines_eq,
      List.cons_append]
  · rw [lines_append_lineFeed absent, List.length_cons, located.number_eq]
  · exact located.terminated

/-- The line with the number that was counted for an offset holds the byte there. -/
theorem exists_lineAt (text : List Char) {offset : Nat} (inside : offset < byteLength text) :
    ∃ before content terminator after,
      LineAt text (lineOfOffset text offset) before content terminator after ∧
        InSpan before (content ++ terminator) offset := by
  induction text using line_induction generalizing offset with
  | empty => exact absurd inside (Nat.not_lt_zero _)
  | last content nonempty absent =>
      have number_eq := lineOfOffset_of_le_content absent [] (Nat.le_of_lt inside)
      rw [List.append_nil] at number_eq
      refine ⟨[], content, [], [], ?_, Nat.zero_le _, by simpa using inside⟩
      constructor
      · simp
      · rw [lines_of_not_mem nonempty absent, lines_nil, List.nil_append]
      · exact number_eq
      · exact Or.inl rfl
  | line content rest absent ih =>
      by_cases here : offset ≤ byteLength content
      · obtain ⟨stem, terminator, split, located⟩ := lineAt_first absent rest
        refine ⟨[], stem, terminator, rest, ?_, Nat.zero_le _, ?_⟩
        · rw [lineOfOffset_of_le_content absent _ here]
          exact located
        · rw [← split, byteLength_nil, byteLength_append, byteLength_cons]
          have wide := Char.utf8Size_pos '\n'
          omega
      · -- The byte lies behind the line feed, so the first line is counted and left.
        have size : ∀ part, byteLength (content ++ '\n' :: part) =
            byteLength content + 1 + byteLength part := by
          intro part
          rw [byteLength_append, byteLength_cons, ← Nat.add_assoc]
          rfl
        rw [size] at inside
        obtain ⟨before, inner, terminator, after, located, lower, upper⟩ :=
          ih (show offset - (byteLength content + 1) < byteLength rest by omega)
        refine ⟨content ++ '\n' :: before, inner, terminator, after, ?_, ?_⟩
        · rw [lineOfOffset_behind absent rest (Nat.lt_of_not_le here)]
          exact located.behind absent
        · rw [InSpan, size]
          omega

/-! ## Characters that can be seen -/

/-- A character starts at a byte offset. -/
def CharAt (text : List Char) (offset : Nat) (char : Char) : Prop :=
  ∃ front back, text = front ++ char :: back ∧ byteLength front = offset

/-- A character that is not blank starts at a byte offset. -/
def VisibleAt (text : List Char) (offset : Nat) : Prop :=
  ∃ char, CharAt text offset char ∧ isBlank char = false

theorem CharAt.lt_byteLength {text : List Char} {offset : Nat} {char : Char}
    (placed : CharAt text offset char) : offset < byteLength text := by
  obtain ⟨front, back, rfl, rfl⟩ := placed
  have wide := char.utf8Size_pos
  rw [byteLength_append, byteLength_cons]
  omega

/-- A character that starts in the bytes of a line is a character of this line. -/
theorem CharAt.mem_of_inSpan {before line after : List Char} {offset : Nat} {char : Char}
    (placed : CharAt (before ++ (line ++ after)) offset char) (span : InSpan before line offset) :
    char ∈ line := by
  obtain ⟨front, back, split, rfl⟩ := placed
  obtain ⟨lower, upper⟩ := span
  have wide := char.utf8Size_pos
  -- The part before the character ends neither before the line starts nor behind the line.
  rcases List.append_eq_append_iff.mp split with ⟨inner, rfl, tail_eq⟩ | ⟨missing, rfl, tail_eq⟩
  · rcases List.append_eq_append_iff.mp tail_eq with ⟨beyond, rfl, -⟩ | ⟨more, rfl, more_eq⟩
    · simp only [byteLength_append] at upper
      omega
    · cases more with
      | nil =>
          rw [List.append_nil, byteLength_append] at upper
          omega
      | cons head more =>
          rw [List.cons_append] at more_eq
          rw [(List.cons.inj more_eq).1]
          simp
  · cases missing with
    | nil =>
        cases line with
        | nil =>
            rw [List.append_nil, byteLength_nil] at upper
            omega
        | cons head line =>
            rw [List.nil_append, List.cons_append] at tail_eq
            rw [(List.cons.inj tail_eq).1]
            exact List.mem_cons_self
    | cons head missing =>
        have headWide := head.utf8Size_pos
        rw [byteLength_append, byteLength_cons] at lower
        omega

/-- Cutting the blanks at the ends of a text keeps every other character. -/
theorem mem_trim_of_not_isBlank {text : List Char} {char : Char} (member : char ∈ text)
    (visible : isBlank char = false) : char ∈ trim text := by
  have kept : ∀ {part : List Char}, char ∈ part → char ∈ part.dropWhile isBlank := by
    intro part inPart
    rw [← List.takeWhile_append_dropWhile (p := isBlank) (l := part), List.mem_append] at inPart
    refine inPart.resolve_left fun dropped => ?_
    have blank := List.mem_takeWhile_imp dropped
    rw [visible] at blank
    exact Bool.noConfusion blank
  rw [trim, List.mem_reverse]
  apply kept
  rw [List.mem_reverse]
  exact kept member

/-- A character that is not blank and starts in a line stands in what is left of the
content of that line without the blanks at its ends. -/
theorem LineAt.mem_trim {text : List Char} {number : Nat}
    {before content terminator after : List Char}
    (located : LineAt text number before content terminator after) {offset : Nat} {char : Char}
    (span : InSpan before (content ++ terminator) offset) (placed : CharAt text offset char)
    (visible : isBlank char = false) : char ∈ trim content := by
  rw [located.whole] at placed
  refine mem_trim_of_not_isBlank ?_ visible
  refine (List.mem_append.mp (placed.mem_of_inSpan span)).resolve_right fun inTerminator => ?_
  have blank : isBlank char = true := by
    rcases located.terminated with rfl | rfl | rfl
    · exact absurd inTerminator List.not_mem_nil
    · rw [List.mem_singleton.mp inTerminator]
      rfl
    · rcases List.mem_pair.mp inTerminator with rfl | rfl <;> rfl
  rw [visible] at blank
  exact Bool.noConfusion blank

end DecoratorLint.Text
