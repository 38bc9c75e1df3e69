import DecoratorLint.Proofs.Directive
import DecoratorLint.Proofs.WrittenDirective

/-!
# The meaning of directives

What a line says is told by its text alone.  A line that is nothing but the words of
a file directive takes the file out.  In any other line the first comment sign before
`noqa` counts; the ids are the words in the list that follows a colon, and without a
word the directive is about every rule.  The search in the line finds exactly this,
and what a text suppresses is what its lines say, each under its own number.
-/

namespace DecoratorLint

namespace Text

/-! ## Words of a text -/

/-- A part of a text that reaches from one separator, or the start of the text, to the
next one, or to the end. -/
def Between (isSeparator : Char → Bool) (text part : List Char) : Prop :=
  ∃ before after, text = before ++ part ++ after ∧
    (before = [] ∨ ∃ front separator, isSeparator separator = true ∧
      before = front ++ [separator]) ∧
    (after = [] ∨ ∃ separator rest, isSeparator separator = true ∧ after = separator :: rest)

/-- A word of a text: a run of characters that are no separators, as long as it can be. -/
structure IsWord (isSeparator : Char → Bool) (text word : List Char) : Prop where
  nonempty : word ≠ []
  free : ∀ char ∈ word, isSeparator char = false
  between : Between isSeparator text word

/-- Induction along the separators of a text. -/
theorem separator_induction (isSeparator : Char → Bool) {motive : List Char → Prop}
    (last : ∀ word, (∀ char ∈ word, isSeparator char = false) → motive word)
    (more : ∀ word separator rest, (∀ char ∈ word, isSeparator char = false) →
      isSeparator separator = true → motive rest → motive (word ++ separator :: rest))
    (text : List Char) : motive text := by
  induction size : text.length using Nat.strongRecOn generalizing text with
  | ind bound ih =>
      cases found : text.find? isSeparator with
      | none =>
          apply last text
          simpa using found
      | some separator =>
          obtain ⟨separates, word, rest, rfl, free⟩ := List.find?_eq_some_iff_append.mp found
          apply more word separator rest (by simpa using free) separates
          apply ih rest.length _ rest rfl
          simp only [List.length_append, List.length_cons] at size
          omega

theorem between_of_mem_pieces {isSeparator : Char → Bool} {text piece : List Char}
    (member : piece ∈ pieces isSeparator text) :
    (∀ char ∈ piece, isSeparator char = false) ∧ Between isSeparator text piece := by
  induction text using separator_induction isSeparator with
  | last word free =>
      rw [pieces_of_free free, List.mem_singleton] at member
      subst member
      exact ⟨free, [], [], by simp, .inl rfl, .inl rfl⟩
  | more word separator rest free separates ih =>
      rw [pieces_append_separator free separates, List.mem_cons] at member
      rcases member with rfl | member
      · exact ⟨free, [], separator :: rest, by simp, .inl rfl,
          .inr ⟨separator, rest, separates, rfl⟩⟩
      · obtain ⟨pieceFree, before, after, rfl, opens, closes⟩ := ih member
        refine ⟨pieceFree, word ++ separator :: before, after, by simp, .inr ?_, closes⟩
        rcases opens with rfl | ⟨front, other, otherSeparates, rfl⟩
        · exact ⟨word, separator, separates, rfl⟩
        · exact ⟨word ++ separator :: front, other, otherSeparates, by simp⟩

/-- The pieces of a text are the parts without a separator that reach from one separator to
the next. -/
theorem mem_pieces_iff {isSeparator : Char → Bool} {text piece : List Char} :
    piece ∈ pieces isSeparator text ↔
      (∀ char ∈ piece, isSeparator char = false) ∧ Between isSeparator text piece := by
  constructor
  · exact between_of_mem_pieces
  · rintro ⟨free, before, after, rfl, opens, closes⟩
    have own := pieces_of_free free
    rcases opens with rfl | ⟨front, first, firstSeparates, rfl⟩ <;>
      rcases closes with rfl | ⟨last, rest, lastSeparates, rfl⟩
    · simp [own]
    · simp [pieces_append lastSeparates, own]
    · simp [pieces_append firstSeparates, own]
    · simp [pieces_append firstSeparates, pieces_append lastSeparates, own]

/-- The words of a text are its pieces that are not empty. -/
theorem mem_words_iff {isSeparator : Char → Bool} {text word : List Char} :
    word ∈ words isSeparator text ↔ IsWord isSeparator text word := by
  rw [words, List.mem_filter, mem_pieces_iff]
  constructor
  · rintro ⟨⟨free, between⟩, nonempty⟩
    exact ⟨by simpa using nonempty, free, between⟩
  · rintro ⟨nonempty, free, between⟩
    exact ⟨⟨free, between⟩, by simpa using nonempty⟩

theorem not_mem_of_mem_splitAt {separator : Char} {text part : String}
    (member : part ∈ splitAt separator text) : separator ∉ part.toList := by
  obtain ⟨piece, inside, rfl⟩ := List.mem_map.mp member
  rw [String.toList_ofList]
  intro present
  simpa using (between_of_mem_pieces inside).1 separator present

end Text

namespace Suppression

/-! ## File directives -/

/-- A text of blanks only. -/
def AllBlank (text : List Char) : Prop :=
  ∀ char ∈ text, Text.isBlank char = true

/-- A line takes the file out: the words of a file directive, with blanks between and
around them and nothing else. -/
def TakesFileOut (line : List Char) : Prop :=
  ∃ first second third fourth fifth, AllBlank first ∧ AllBlank second ∧ AllBlank third ∧
    AllBlank fourth ∧ AllBlank fifth ∧
      line = first ++ "#".toList ++ second ++ "annotation-lint".toList ++ third ++
        ":".toList ++ fourth ++ "noqa".toList ++ fifth

/-- A word that starts with a visible character is found behind blanks only. -/
theorem afterBlanks?_word_eq_some_iff {word text after : List Char}
    (visible : word.head?.map Text.isBlank = some false) :
    afterBlanks? word text = some after ↔
      ∃ blanks, AllBlank blanks ∧ text = blanks ++ word ++ after := by
  cases word with
  | nil => contradiction
  | cons letter word => exact afterBlanks?_eq_some_iff (Option.some.inj visible)

theorem isFileDirective_iff_takesFileOut {line : List Char} :
    isFileDirective line = true ↔ TakesFileOut line := by
  have hash (text after : List Char) :=
    @afterBlanks?_word_eq_some_iff "#".toList text after (by decide)
  have tool (text after : List Char) :=
    @afterBlanks?_word_eq_some_iff "annotation-lint".toList text after (by decide)
  have colon (text after : List Char) :=
    @afterBlanks?_word_eq_some_iff ":".toList text after (by decide)
  have noqa (text after : List Char) :=
    @afterBlanks?_word_eq_some_iff "noqa".toList text after (by decide)
  simp only [isFileDirective_iff, hash, tool, colon, noqa, List.all_eq_true]
  constructor
  · rintro ⟨_, _, _, fifth, ⟨first, firstBlank, rfl⟩, ⟨second, secondBlank, rfl⟩,
      ⟨third, thirdBlank, rfl⟩, ⟨fourth, fourthBlank, rfl⟩, fifthBlank⟩
    refine ⟨first, second, third, fourth, fifth, firstBlank, secondBlank, thirdBlank, fourthBlank,
      fifthBlank, ?_⟩
    simp only [List.append_assoc]
  · rintro ⟨first, second, third, fourth, fifth, firstBlank, secondBlank, thirdBlank, fourthBlank,
      fifthBlank, rfl⟩
    refine ⟨_, _, _, fifth, ⟨first, firstBlank, ?_⟩, ⟨second, secondBlank, rfl⟩,
      ⟨third, thirdBlank, rfl⟩, ⟨fourth, fourthBlank, rfl⟩, fifthBlank⟩
    simp only [List.append_assoc]

/-! ## The directive of a line -/

/-- A directive stands in a line: behind the part before it a comment sign, blanks and
`noqa`, and then the part after it. -/
def DirectiveAt (line before after : List Char) : Prop :=
  ∃ blanks, AllBlank blanks ∧ line = before ++ '#' :: (blanks ++ "noqa".toList ++ after)

/-- The part of a line after its first directive. -/
def FirstDirective (line after : List Char) : Prop :=
  ∃ before, DirectiveAt line before after ∧
    ∀ other rest, DirectiveAt line other rest → before.length ≤ other.length

theorem directiveAt_nil_iff {line after : List Char} :
    DirectiveAt line [] after ↔
      ∃ rest, line = '#' :: rest ∧ afterBlanks? "noqa".toList rest = some after := by
  simp only [afterBlanks?_word_eq_some_iff (show "noqa".toList.head?.map Text.isBlank = some false
    by decide)]
  constructor
  · rintro ⟨blanks, blank, rfl⟩
    exact ⟨_, rfl, blanks, blank, rfl⟩
  · rintro ⟨_, rfl, blanks, blank, rfl⟩
    exact ⟨blanks, blank, rfl⟩

theorem directiveAt_cons_iff {char : Char} {rest before after : List Char} :
    DirectiveAt (char :: rest) before after ↔
      (before = [] ∧ char = '#' ∧ afterBlanks? "noqa".toList rest = some after) ∨
        ∃ front, before = char :: front ∧ DirectiveAt rest front after := by
  cases before with
  | nil => simp [directiveAt_nil_iff]
  | cons first front =>
      constructor
      · rintro ⟨blanks, blank, shape⟩
        obtain ⟨rfl, rest_eq⟩ := List.cons.inj shape
        exact .inr ⟨front, rfl, blanks, blank, rest_eq⟩
      · rintro (⟨empty, _⟩ | ⟨_, shape, blanks, blank, rfl⟩)
        · cases empty
        · cases shape
          exact ⟨blanks, blank, rfl⟩

/-- A directive right at the start is the first one. -/
theorem firstDirective_cons_iff_of_found {rest found after : List Char}
    (starts : afterBlanks? "noqa".toList rest = some found) :
    FirstDirective ('#' :: rest) after ↔ after = found := by
  have atStart : DirectiveAt ('#' :: rest) [] found :=
    directiveAt_cons_iff.mpr (.inl ⟨rfl, rfl, starts⟩)
  constructor
  · rintro ⟨before, directive, first⟩
    have empty : before = [] := List.eq_nil_of_length_eq_zero (Nat.le_zero.mp (first _ _ atStart))
    rcases directiveAt_cons_iff.mp directive with ⟨_, _, again⟩ | ⟨front, shape, _⟩
    · rw [starts] at again
      exact (Option.some.inj again).symm
    · rw [empty] at shape
      cases shape
  · rintro rfl
    exact ⟨[], atStart, fun _ _ _ => Nat.zero_le _⟩

/-- Without one at the start, the first directive is the first of the rest. -/
theorem firstDirective_cons_iff_of_not_found {char : Char} {rest after : List Char}
    (plain : char = '#' → afterBlanks? "noqa".toList rest = none) :
    FirstDirective (char :: rest) after ↔ FirstDirective rest after := by
  have shifted (before behind : List Char) :
      DirectiveAt (char :: rest) before behind ↔
        ∃ front, before = char :: front ∧ DirectiveAt rest front behind := by
    rw [directiveAt_cons_iff, or_iff_right]
    rintro ⟨_, sign, found⟩
    rw [plain sign] at found
    contradiction
  simp only [FirstDirective, shifted]
  constructor
  · rintro ⟨_, ⟨front, rfl, directive⟩, first⟩
    refine ⟨front, directive, ?_⟩
    intro other behind found
    exact Nat.le_of_succ_le_succ (first _ behind ⟨other, rfl, found⟩)
  · rintro ⟨front, directive, first⟩
    refine ⟨_, ⟨front, rfl, directive⟩, ?_⟩
    rintro _ behind ⟨other, rfl, found⟩
    exact Nat.succ_le_succ (first other behind found)

/-- The search stops behind the first directive. -/
theorem afterDirective?_eq_some_iff {line after : List Char} :
    afterDirective? line = some after ↔ FirstDirective line after := by
  induction line with
  | nil =>
      simp only [afterDirective?, reduceCtorEq, false_iff]
      rintro ⟨before, ⟨blanks, _, shape⟩, _⟩
      simp at shape
  | cons char rest ih =>
      rw [afterDirective?]
      by_cases sign : char = '#'
      · subst sign
        cases starts : afterBlanks? "noqa".toList rest with
        | none =>
            rw [if_pos rfl, ih, firstDirective_cons_iff_of_not_found fun _ => starts]
        | some found =>
            rw [if_pos rfl, firstDirective_cons_iff_of_found starts, Option.some.injEq, eq_comm]
      · rw [if_neg sign, ih, firstDirective_cons_iff_of_not_found fun same => absurd same sign]

/-! ## The ids of a directive -/

/-- A character that may stand in a list of ids: an ASCII letter or digit, a comma or a
blank. -/
def ListChar (char : Char) : Prop :=
  ('A' ≤ char ∧ char ≤ 'Z') ∨ ('a' ≤ char ∧ char ≤ 'z') ∨ ('0' ≤ char ∧ char ≤ '9') ∨
    char = ',' ∨ Text.isBlank char = true

theorem isListChar_iff {char : Char} : isListChar char = true ↔ ListChar char := by
  simp only [isListChar, ListChar, isAlphanum_iff, Bool.or_eq_true, decide_eq_true_eq, or_assoc]

/-- The list of ids after `noqa`: behind blanks and a colon, the longest part in which
only characters of such a list stand. -/
def ListAfter (after list : List Char) : Prop :=
  ∃ blanks rest, AllBlank blanks ∧ after = blanks ++ ":".toList ++ (list ++ rest) ∧
    (∀ char ∈ list, ListChar char) ∧ ∀ char, rest.head? = some char → ¬ ListChar char

theorem listAfter_iff {after list : List Char} :
    ListAfter after list ↔
      ∃ text, afterBlanks? ":".toList after = some text ∧ list = text.takeWhile isListChar := by
  simp only [afterBlanks?_word_eq_some_iff (show ":".toList.head?.map Text.isBlank = some false
    by decide)]
  constructor
  · rintro ⟨blanks, rest, blank, rfl, inside, stops⟩
    refine ⟨list ++ rest, ⟨blanks, blank, rfl⟩, ?_⟩
    rw [List.takeWhile_append_of_pos fun char member => isListChar_iff.mpr (inside char member)]
    cases rest with
    | nil => simp
    | cons char rest =>
        have stopped : isListChar char = false := by
          rw [Bool.eq_false_iff, Ne, isListChar_iff]
          exact stops char rfl
        simp [stopped]
  · rintro ⟨text, ⟨blanks, blank, rfl⟩, rfl⟩
    refine ⟨blanks, text.dropWhile isListChar, blank, ?_, ?_, ?_⟩
    · rw [List.takeWhile_append_dropWhile]
    · intro char member
      exact isListChar_iff.mp (List.mem_takeWhile_imp member)
    · intro char stops
      have stopped := List.head?_dropWhile_not isListChar text
      rw [stops] at stopped
      rw [← isListChar_iff]
      simpa using stopped

/-- A directive names an id: a word of its list is the id in upper case. -/
theorem mem_directiveIds_iff {after : List Char} {id : String} :
    id ∈ directiveIds after ↔
      ∃ list word, ListAfter after list ∧ Text.IsWord isListSeparator list word ∧
        id = String.ofList (word.map Char.toUpper) := by
  have inList (list : List Char) : id ∈ idsIn list ↔
      ∃ word, Text.IsWord isListSeparator list word ∧
        id = String.ofList (word.map Char.toUpper) := by
    simp only [idsIn, Text.mem_sortedUnique, List.mem_map, ← Text.mem_words_iff, eq_comm]
    rfl
  rw [directiveIds]
  simp only [listAfter_iff]
  cases afterBlanks? ":".toList after with
  | none => simp
  | some text => simp [inList]

/-! ## What a line says -/

/-- A line has a directive; one that takes the file out has none of its own. -/
def HasDirective (line : List Char) : Prop :=
  ¬ TakesFileOut line ∧ ∃ after, FirstDirective line after

/-- The directive of a line names an id. -/
def NamesId (line : List Char) (id : String) : Prop :=
  ¬ TakesFileOut line ∧ ∃ after list word, FirstDirective line after ∧ ListAfter after list ∧
    Text.IsWord isListSeparator list word ∧ id = String.ofList (word.map Char.toUpper)

/-- A line has a directive that names no id. -/
def NamesNone (line : List Char) : Prop :=
  HasDirective line ∧ ∀ id, ¬ NamesId line id

theorem lineIds?_eq_some_iff {line : List Char} {ids : List String} :
    lineIds? line = some ids ↔
      ¬ TakesFileOut line ∧ ∃ after, FirstDirective line after ∧ directiveIds after = ids := by
  rw [← isFileDirective_iff_takesFileOut, lineIds?]
  by_cases skips : isFileDirective line = true
  · simp [skips]
  · simp [skips, afterDirective?_eq_some_iff]

theorem namesId_iff {line : List Char} {id : String} :
    NamesId line id ↔ ∃ ids, lineIds? line = some ids ∧ id ∈ ids := by
  simp only [lineIds?_eq_some_iff]
  constructor
  · rintro ⟨kept, after, list, word, first, listed, isWord, upper⟩
    have member := mem_directiveIds_iff.mpr ⟨list, word, listed, isWord, upper⟩
    exact ⟨_, ⟨kept, after, first, rfl⟩, member⟩
  · rintro ⟨_, ⟨kept, after, first, rfl⟩, member⟩
    obtain ⟨list, word, listed, isWord, upper⟩ := mem_directiveIds_iff.mp member
    exact ⟨kept, after, list, word, first, listed, isWord, upper⟩

theorem namesNone_iff {line : List Char} : NamesNone line ↔ lineIds? line = some [] := by
  constructor
  · rintro ⟨⟨kept, after, first⟩, silent⟩
    have found : lineIds? line = some (directiveIds after) :=
      lineIds?_eq_some_iff.mpr ⟨kept, after, first, rfl⟩
    rw [found, Option.some.injEq, List.eq_nil_iff_forall_not_mem]
    intro id member
    exact silent id (namesId_iff.mpr ⟨_, found, member⟩)
  · intro found
    obtain ⟨kept, after, first, _⟩ := lineIds?_eq_some_iff.mp found
    refine ⟨⟨kept, after, first⟩, ?_⟩
    intro id named
    obtain ⟨ids, same, member⟩ := namesId_iff.mp named
    rw [found, Option.some.injEq] at same
    subst same
    cases member

theorem namedIds?_eq_some_iff {line : List Char} {ids : List String} :
    namedIds? line = some ids ↔ lineIds? line = some ids ∧ ids ≠ [] := by
  rw [namedIds?]
  split
  · rename_i first rest found
    rw [found]
    constructor
    · rintro ⟨⟩
      exact ⟨rfl, List.cons_ne_nil first rest⟩
    · exact And.left
  · rename_i other
    simp only [reduceCtorEq, false_iff, not_and, not_not]
    intro found
    cases ids with
    | nil => rfl
    | cons first rest => exact absurd found (other first rest)

/-- The ids that go under a line are those that its directive names. -/
theorem mem_of_namedIds? {line : List Char} {ids : List String}
    (found : namedIds? line = some ids) (id : String) : id ∈ ids ↔ NamesId line id := by
  rw [namesId_iff, (namedIds?_eq_some_iff.mp found).1]
  simp

theorem namedIds?_eq_none_iff {line : List Char} :
    namedIds? line = none ↔ ∀ id, ¬ NamesId line id := by
  constructor
  · intro missing id named
    obtain ⟨ids, found, member⟩ := namesId_iff.mp named
    have present := namedIds?_eq_some_iff.mpr ⟨found, List.ne_nil_of_mem member⟩
    rw [missing] at present
    contradiction
  · intro silent
    rw [Option.eq_none_iff_forall_ne_some]
    intro ids found
    obtain ⟨id, member⟩ := List.exists_mem_of_ne_nil ids (namedIds?_eq_some_iff.mp found).2
    exact silent id ((mem_of_namedIds? found id).mp member)

/-! ## What a text suppresses -/

section

variable {source : List Char}

theorem mem_everyRule_iff {number : Nat} :
    number ∈ (ofSource source).everyRule ↔
      ∃ index line, number = index + 1 ∧ (Text.lines source)[index]? = some line ∧
        NamesNone line := by
  rw [mem_everyRule_ofSource_iff]
  simp only [namesNone_iff, Option.bind_eq_some_iff]
  constructor
  · rintro ⟨positive, line, present, silent⟩
    exact ⟨number - 1, line, by omega, present, silent⟩
  · rintro ⟨index, line, rfl, present, silent⟩
    exact ⟨Nat.succ_pos index, line, present, silent⟩

theorem mem_everyRule_iff_of_line {index : Nat} {line : List Char}
    (present : (Text.lines source)[index]? = some line) :
    index + 1 ∈ (ofSource source).everyRule ↔ NamesNone line := by
  simp [mem_everyRule_ofSource_iff, present, namesNone_iff]

theorem lookup_someRules_of_line {index : Nat} {line : List Char}
    (present : (Text.lines source)[index]? = some line) :
    (ofSource source).someRules.lookup (index + 1) = namedIds? line := by
  rw [lookup_someRules_ofSource, if_pos (Nat.le_add_left 1 index), Nat.add_sub_cancel, present]
  rfl

theorem exists_line_of_lookup {number : Nat} {ids : List String}
    (held : (ofSource source).someRules.lookup number = some ids) :
    ∃ index line, number = index + 1 ∧ (Text.lines source)[index]? = some line ∧
      namedIds? line = some ids := by
  rw [lookup_someRules_ofSource] at held
  split at held
  · obtain ⟨line, present, named⟩ := Option.bind_eq_some_iff.mp held
    exact ⟨number - 1, line, by omega, present, named⟩
  · contradiction

/-- Only lines of the text are recorded with some rules. -/
theorem exists_line_of_mem_someRules {number : Nat}
    (recorded : number ∈ (ofSource source).someRules.map Prod.fst) :
    ∃ index line, number = index + 1 ∧ (Text.lines source)[index]? = some line := by
  cases held : (ofSource source).someRules.lookup number with
  | none =>
      obtain ⟨entry, member, rfl⟩ := List.mem_map.mp recorded
      simpa using List.lookup_eq_none_iff.mp held entry member
  | some ids =>
      obtain ⟨index, line, position, present, _⟩ := exists_line_of_lookup held
      exact ⟨index, line, position, present⟩

theorem mem_idsAt_iff {number : Nat} {id : String} :
    id ∈ (ofSource source).idsAt number ↔
      ∃ index line, number = index + 1 ∧ (Text.lines source)[index]? = some line ∧
        NamesId line id := by
  rw [idsAt]
  constructor
  · intro member
    cases held : (ofSource source).someRules.lookup number with
    | none => simp [held] at member
    | some ids =>
        obtain ⟨index, line, position, present, found⟩ := exists_line_of_lookup held
        rw [held, Option.getD_some] at member
        exact ⟨index, line, position, present, (mem_of_namedIds? found id).mp member⟩
  · rintro ⟨index, line, rfl, present, named⟩
    rw [lookup_someRules_of_line present]
    cases found : namedIds? line with
    | none => exact absurd named (namedIds?_eq_none_iff.mp found id)
    | some ids => exact (mem_of_namedIds? found id).mpr named

theorem mem_idsAt_iff_of_line {index : Nat} {line : List Char} {id : String}
    (present : (Text.lines source)[index]? = some line) :
    id ∈ (ofSource source).idsAt (index + 1) ↔ NamesId line id := by
  rw [mem_idsAt_iff]
  constructor
  · rintro ⟨_, _, ⟨⟩, found, named⟩
    rw [present] at found
    cases found
    exact named
  · intro named
    exact ⟨index, line, rfl, present, named⟩

theorem skipsFile_iff_takesFileOut :
    (ofSource source).skipsFile = true ↔ ∃ line ∈ Text.lines source, TakesFileOut line := by
  simp only [skipsFile_ofSource_iff, isFileDirective_iff_takesFileOut]

end

/-- What the comments of a text mean.  The file is taken out when a line says so; a line
stands for every rule when its directive names no id, and for the ids that it names
otherwise; no line is recorded in both ways, and no line that is not there.  A rule is
suppressed on a line when the file is taken out, or when the directive of that line names
no id or the id of the rule. -/
theorem ofSource_says (source : List Char) :
    let lines := Text.lines source
    let said := ofSource source
    (said.skipsFile = true ↔ ∃ line ∈ lines, TakesFileOut line) ∧
    (∀ index line, lines[index]? = some line →
      (index + 1 ∈ said.everyRule ↔ NamesNone line) ∧
      ((∃ id, NamesId line id) → ∃ ids, said.someRules.lookup (index + 1) = some ids ∧
        ∀ id, id ∈ ids ↔ NamesId line id) ∧
      ((∀ id, ¬ NamesId line id) → said.someRules.lookup (index + 1) = none)) ∧
    (∀ number ∈ said.everyRule, number ∉ said.someRules.map Prod.fst) ∧
    (∀ number, number ∈ said.everyRule ∨ number ∈ said.someRules.map Prod.fst →
      1 ≤ number ∧ number ≤ lines.length) ∧
    ∀ number id, said.suppresses number id = true ↔
      (∃ line ∈ lines, TakesFileOut line) ∨
        ∃ index line, number = index + 1 ∧ lines[index]? = some line ∧
          (NamesNone line ∨ NamesId line id) := by
  intro lines said
  refine ⟨skipsFile_iff_takesFileOut, ?_, ?_, ?_, ?_⟩
  · intro index line present
    rw [lookup_someRules_of_line present]
    refine ⟨mem_everyRule_iff_of_line present, ?_, namedIds?_eq_none_iff.mpr⟩
    rintro ⟨id, named⟩
    cases found : namedIds? line with
    | none => exact absurd named (namedIds?_eq_none_iff.mp found id)
    | some ids => exact ⟨ids, rfl, mem_of_namedIds? found⟩
  · intro number every recorded
    obtain ⟨index, line, rfl, present, silent⟩ := mem_everyRule_iff.mp every
    have unnamed := lookup_someRules_of_line present
    rw [namedIds?_eq_none_iff.mpr silent.2, List.lookup_eq_none_iff] at unnamed
    obtain ⟨entry, member, same⟩ := List.mem_map.mp recorded
    simpa [same] using unnamed entry member
  · intro number recorded
    obtain ⟨index, line, rfl, present⟩ :
        ∃ index line, number = index + 1 ∧ lines[index]? = some line := by
      rcases recorded with every | some
      · obtain ⟨index, line, position, present, _⟩ := mem_everyRule_iff.mp every
        exact ⟨index, line, position, present⟩
      · exact exists_line_of_mem_someRules some
    exact ⟨Nat.succ_pos index, (List.getElem?_eq_some_iff.mp present).1⟩
  · intro number id
    simp only [suppresses, Bool.or_eq_true, List.contains_iff_mem, said, lines,
      skipsFile_iff_takesFileOut, mem_everyRule_iff, mem_idsAt_iff, or_assoc, ← exists_or,
      ← and_or_left]

/-- Words of a file directive behind code say nothing.  A list ends at a semicolon, and a
second sign does not hide a directive.  A list of blanks names no id, and later directives
of the line do not count. -/
theorem ofSource_says_at_odd_lines :
    let source := ("x # annotation-lint: noqa\n" ++ "@a ## noqa\t: b1,,Ann2; X\n" ++
      "@b # noqa :  ;C # noqa: D").toList
    let named := "@a ## noqa\t: b1,,Ann2; X".toList
    let bare := "@b # noqa :  ;C # noqa: D".toList
    (Text.lines source)[1]? = some named ∧ (Text.lines source)[2]? = some bare ∧
      (∀ line ∈ Text.lines source, ¬ TakesFileOut line) ∧
      (∀ id, NamesId named id ↔ id ∈ ["ANN2", "B1"]) ∧ NamesNone bare := by
  intro source named bare
  have namedPresent : (Text.lines source)[1]? = some named := by decide +kernel
  have barePresent : (Text.lines source)[2]? = some bare := by decide +kernel
  have said : ofSource source = { everyRule := [3], someRules := [(2, ["ANN2", "B1"])] } := by
    decide +kernel
  obtain ⟨skips, lines, _⟩ := ofSource_says source
  obtain ⟨_, some, none⟩ := lines 1 named namedPresent
  obtain ⟨every, _, _⟩ := lines 2 bare barePresent
  refine ⟨namedPresent, barePresent, ?_, ?_, every.mp (by simp [said])⟩
  · intro line member takesOut
    have skipped := skips.mpr ⟨line, member, takesOut⟩
    simp [said] at skipped
  · by_cases names : ∃ id, NamesId named id
    · obtain ⟨ids, held, mem⟩ := some names
      rw [said] at held
      cases held
      exact fun id => (mem id).symm
    · have missing := none (not_exists.mp names)
      simp [said] at missing

end Suppression

end DecoratorLint
