import DecoratorLint.Proofs.Directive
import DecoratorLint.Proofs.TextLines
import DecoratorLint.Rule.Spec
import Mathlib.Data.List.Basic

/-!
# Writing a directive

Every id that a rule can have can be suppressed on a line: the comment
`# noqa: ID1, ID2` at the end of a line that had no directive suppresses the rules
with these ids on this line, and changes nothing else.  The ids may be written in
either case and with any commas and spaces between them.
-/

namespace DecoratorLint

/-! ## Words between separators -/

namespace Text

/-- The pieces of a text that are not empty. -/
def words (isSeparator : Char → Bool) (text : List Char) : List (List Char) :=
  (pieces isSeparator text).filter (!·.isEmpty)

theorem pieces_append_separator {isSeparator : Char → Bool} {word : List Char}
    (free : ∀ char ∈ word, isSeparator char = false) {separator : Char}
    (separates : isSeparator separator = true) (rest : List Char) :
    pieces isSeparator (word ++ separator :: rest) = word :: pieces isSeparator rest := by
  rw [pieces_append separates, pieces_of_free free, List.singleton_append]

theorem words_append_separators {isSeparator : Char → Bool} {separators : List Char}
    (separating : ∀ char ∈ separators, isSeparator char = true) (rest : List Char) :
    words isSeparator (separators ++ rest) = words isSeparator rest := by
  induction separators with
  | nil => rfl
  | cons separator separators ih =>
      rw [← ih fun char member => separating char (List.mem_cons_of_mem separator member)]
      simp [words, pieces, separating separator List.mem_cons_self]

theorem words_of_free {isSeparator : Char → Bool} {word : List Char} (nonempty : word ≠ [])
    (free : ∀ char ∈ word, isSeparator char = false) : words isSeparator word = [word] := by
  simp [words, pieces_of_free free, nonempty]

theorem words_append_word {isSeparator : Char → Bool} {word : List Char} (nonempty : word ≠ [])
    (free : ∀ char ∈ word, isSeparator char = false) {separators : List Char}
    (apart : separators ≠ []) (separating : ∀ char ∈ separators, isSeparator char = true)
    (rest : List Char) :
    words isSeparator (word ++ separators ++ rest) = word :: words isSeparator rest := by
  cases separators with
  | nil => contradiction
  | cons separator separators =>
      have later := words_append_separators
        (fun char member => separating char (List.mem_cons_of_mem separator member)) rest
      rw [← later, List.append_assoc, List.cons_append, words,
        pieces_append_separator free (separating separator List.mem_cons_self)]
      simp [words, nonempty]

end Text

namespace Suppression

/-! ## Written lists of ids -/

/-- A text writes a list of ids: each of them in any mixture of upper and lower
case, and commas and spaces between two of them. -/
inductive WrittenIds : List String → List Char → Prop where
  | last {id : String} {spelling : List Char} (valid : RuleSpec.isId id = true)
      (spells : spelling.map Char.toUpper = id.toList) : WrittenIds [id] spelling
  | more {id : String} {spelling separators list : List Char} {ids : List String}
      (valid : RuleSpec.isId id = true) (spells : spelling.map Char.toUpper = id.toList)
      (apart : separators ≠ []) (separating : ∀ char ∈ separators, char = ',' ∨ char = ' ')
      (rest : WrittenIds ids list) : WrittenIds (id :: ids) (spelling ++ separators ++ list)

theorem isAlphanum_eq (char : Char) :
    char.isAlphanum = ((char.isUpper || char.isLower) || char.isDigit) :=
  rfl

/-- Letters and digits by the first and the last of each kind. -/
theorem isAlphanum_iff {char : Char} :
    char.isAlphanum = true ↔
      (('A' ≤ char ∧ char ≤ 'Z') ∨ ('a' ≤ char ∧ char ≤ 'z')) ∨ ('0' ≤ char ∧ char ≤ '9') := by
  have upper : char.isUpper = true ↔ 'A' ≤ char ∧ char ≤ 'Z' := decide_eq_true_iff
  have lower : char.isLower = true ↔ 'a' ≤ char ∧ char ≤ 'z' :=
    Bool.and_eq_true_iff.trans (and_congr decide_eq_true_iff decide_eq_true_iff)
  have digit : char.isDigit = true ↔ '0' ≤ char ∧ char ≤ '9' :=
    Bool.and_eq_true_iff.trans (and_congr decide_eq_true_iff decide_eq_true_iff)
  rw [isAlphanum_eq, Bool.or_eq_true, Bool.or_eq_true, upper, lower, digit]

/-- Letters and digits stand between the codes of `0` and `z`. -/
theorem code_of_isAlphanum {char : Char} (alphanumeric : char.isAlphanum = true) :
    48 ≤ char.toNat ∧ char.toNat ≤ 122 := by
  have codes {least greatest : Char} (between : least ≤ char ∧ char ≤ greatest) :
      least.toNat ≤ char.toNat ∧ char.toNat ≤ greatest.toNat :=
    between.imp UInt32.le_iff_toNat_le.mp UInt32.le_iff_toNat_le.mp
  rcases isAlphanum_iff.mp alphanumeric with (upper | lower) | digit
  · have bounds : 65 ≤ char.toNat ∧ char.toNat ≤ 90 := codes upper
    omega
  · have bounds : 97 ≤ char.toNat ∧ char.toNat ≤ 122 := codes lower
    omega
  · have bounds : 48 ≤ char.toNat ∧ char.toNat ≤ 57 := codes digit
    omega

theorem isAlphanum_of_isIdChar_toUpper {char : Char}
    (valid : RuleSpec.isIdChar char.toUpper = true) : char.isAlphanum = true := by
  by_cases lower : 'a' ≤ char ∧ char ≤ 'z'
  · exact isAlphanum_iff.mpr (.inl (.inr lower))
  · have same : char.toUpper = char := dif_neg lower
    rw [same, RuleSpec.isIdChar, Bool.or_eq_true] at valid
    rcases valid with upper | digit
    · simp [isAlphanum_eq, upper]
    · simp [isAlphanum_eq, digit]

theorem isListSeparator_of_isAlphanum {char : Char} (alphanumeric : char.isAlphanum = true) :
    isListSeparator char = false := by
  have ⟨least, greatest⟩ := code_of_isAlphanum alphanumeric
  rw [isListSeparator, Bool.or_eq_false_iff]
  constructor
  · rw [decide_eq_false_iff_not]
    rintro rfl
    exact absurd least (by decide)
  · rw [Bool.eq_false_iff, Ne, Text.isBlank_iff]
    intro member
    have outside : ∀ code ∈ Text.blankCodes, code < 48 ∨ 122 < code := by decide
    rcases outside _ member with below | above <;> omega

theorem letters_of_isId {id : String} (valid : RuleSpec.isId id = true) :
    id.toList ≠ [] ∧ ∀ char ∈ id.toList, RuleSpec.isIdChar char = true := by
  cases letters : id.toList with
  | nil => simp [RuleSpec.isId, letters] at valid
  | cons first rest =>
      simp only [RuleSpec.isId, letters, Bool.and_eq_true, List.all_eq_true] at valid
      refine ⟨List.cons_ne_nil first rest, ?_⟩
      intro char member
      rcases List.mem_cons.mp member with rfl | member
      · simp [RuleSpec.isIdChar, valid.1]
      · exact valid.2 char member

/-- A spelling of an id is a word of letters and digits. -/
theorem spelling_of_isId {id : String} {spelling : List Char}
    (valid : RuleSpec.isId id = true) (spells : spelling.map Char.toUpper = id.toList) :
    spelling ≠ [] ∧ ∀ char ∈ spelling, char.isAlphanum = true := by
  have letters := letters_of_isId valid
  rw [← spells] at letters
  constructor
  · rintro rfl
    exact letters.1 rfl
  · intro char member
    exact isAlphanum_of_isIdChar_toUpper (letters.2 _ (List.mem_map_of_mem member))

namespace WrittenIds

variable {ids : List String} {list : List Char}

/-- A written list has letters, digits, commas and spaces in it and nothing else. -/
theorem chars (written : WrittenIds ids list) :
    ∀ char ∈ list, char.isAlphanum = true ∨ char = ',' ∨ char = ' ' := by
  induction written with
  | last valid spells =>
      intro char member
      exact Or.inl ((spelling_of_isId valid spells).2 char member)
  | more valid spells apart separating rest ih =>
      intro char member
      rw [List.mem_append, List.mem_append] at member
      rcases member with (inSpelling | inSeparators) | inRest
      · exact Or.inl ((spelling_of_isId valid spells).2 char inSpelling)
      · exact Or.inr (separating char inSeparators)
      · exact ih char inRest

theorem sortedUnique_ne_nil (written : WrittenIds ids list) : Text.sortedUnique ids ≠ [] := by
  have nonempty : ids ≠ [] := by
    cases written <;> exact List.cons_ne_nil _ _
  obtain ⟨id, member⟩ := List.exists_mem_of_ne_nil ids nonempty
  exact List.ne_nil_of_mem (Text.mem_sortedUnique.mpr member)

theorem getLast?_isAlphanum (written : WrittenIds ids list) :
    ∃ char, list.getLast? = some char ∧ char.isAlphanum = true := by
  induction written with
  | last valid spells =>
      obtain ⟨nonempty, alphanumeric⟩ := spelling_of_isId valid spells
      exact ⟨_, List.getLast?_eq_some_getLast nonempty, alphanumeric _ (List.getLast_mem nonempty)⟩
  | more valid spells apart separating rest ih =>
      obtain ⟨char, ends, alphanumeric⟩ := ih
      exact ⟨char, by rw [List.getLast?_append, ends, Option.some_or], alphanumeric⟩

/-- The words of a written list, in upper case, are its ids. -/
theorem map_words (written : WrittenIds ids list) :
    (Text.words isListSeparator list).map (fun id => String.ofList (id.map Char.toUpper)) =
      ids := by
  induction written with
  | last valid spells =>
      obtain ⟨nonempty, alphanumeric⟩ := spelling_of_isId valid spells
      have free := fun char member => isListSeparator_of_isAlphanum (alphanumeric char member)
      rw [Text.words_of_free nonempty free, List.map_singleton, spells, String.ofList_toList]
  | @more id spelling separators list ids valid spells apart separating rest ih =>
      obtain ⟨nonempty, alphanumeric⟩ := spelling_of_isId valid spells
      have free := fun char member => isListSeparator_of_isAlphanum (alphanumeric char member)
      have between : ∀ char ∈ separators, isListSeparator char = true := by
        intro char member
        rcases separating char member with rfl | rfl <;> decide
      rw [Text.words_append_word nonempty free apart between, List.map_cons, ih, spells,
        String.ofList_toList]

end WrittenIds

/-! ## Reading a line with a comment at its end -/

/-- A word is found in a text with an addition only where it is found in the text,
if the addition starts with a character that is foreign to the word. -/
theorem afterWord?_append {word : List Char} {first : Char} (foreign : first ∉ word)
    (text more : List Char) :
    afterWord? word (text ++ first :: more) = (afterWord? word text).map (· ++ first :: more) := by
  induction word generalizing text with
  | nil => simp [afterWord?]
  | cons letter word ih =>
      have differs : letter ≠ first := by
        rintro rfl
        exact foreign List.mem_cons_self
      cases text with
      | nil => simp [afterWord?, differs]
      | cons char text =>
          have inner := ih (fun member => foreign (List.mem_cons_of_mem letter member)) text
          by_cases same : letter = char
          · simpa [afterWord?, same] using inner
          · simp [afterWord?, same]

/-- The comment that names ids, as it is put at the end of a line. -/
def commentOf (list : List Char) : List Char :=
  "  # noqa: ".toList ++ list

theorem commentOf_eq (list : List Char) :
    commentOf list = ' ' :: ' ' :: '#' :: ' ' :: 'n' :: 'o' :: 'q' :: 'a' :: ':' :: ' ' :: list :=
  rfl

/-- Behind blanks, too, a comment at the end adds no occurrence of a word, unless the
word is the comment sign. -/
theorem afterBlanks?_append_commentOf {letter : Char} {word : List Char}
    (foreign : ' ' ∉ letter :: word) (noSign : letter ≠ '#') (text list : List Char) :
    afterBlanks? (letter :: word) (text ++ commentOf list) =
      (afterBlanks? (letter :: word) text).map (· ++ commentOf list) := by
  rw [afterBlanks?, afterBlanks?, List.dropWhile_append]
  split
  · rename_i blank
    have dropped : (commentOf list).dropWhile Text.isBlank = '#' :: " noqa: ".toList ++ list := rfl
    rw [List.isEmpty_iff.mp blank, dropped]
    simp [afterWord?, noSign]
  · exact afterWord?_append foreign _ _

theorem exists_append_of_afterBlanks? {letter : Char} {word : List Char}
    (foreign : ' ' ∉ letter :: word) (noSign : letter ≠ '#') {text list after : List Char}
    (found : afterBlanks? (letter :: word) (text ++ commentOf list) = some after) :
    ∃ before, after = before ++ commentOf list := by
  rw [afterBlanks?_append_commentOf foreign noSign, Option.map_eq_some_iff] at found
  obtain ⟨before, _, rfl⟩ := found
  exact ⟨before, rfl⟩

/-- The first comment sign of a line with such a comment stands in the line, or it is
the sign of the comment. -/
theorem afterSign_append_commentOf {line list hash : List Char}
    (found : afterBlanks? ['#'] (line ++ commentOf list) = some hash) :
    (∃ before, hash = before ++ commentOf list) ∨ hash = " noqa: ".toList ++ list := by
  rw [afterBlanks?, List.dropWhile_append] at found
  split at found
  · right
    exact (Option.some.inj found).symm
  · left
    rw [commentOf_eq, afterWord?_append (by decide), Option.map_eq_some_iff] at found
    obtain ⟨before, _, rfl⟩ := found
    exact ⟨before, rfl⟩

theorem isFileDirective_iff {line : List Char} :
    isFileDirective line = true ↔
      ∃ hash tool colon after, afterBlanks? "#".toList line = some hash ∧
        afterBlanks? "annotation-lint".toList hash = some tool ∧
        afterBlanks? ":".toList tool = some colon ∧
        afterBlanks? "noqa".toList colon = some after ∧ after.all Text.isBlank = true := by
  constructor
  · intro directive
    rw [isFileDirective] at directive
    split at directive
    · rename_i after chain
      simp only [Option.bind_eq_bind, Option.bind_eq_some_iff] at chain
      obtain ⟨hash, hashFound, tool, toolFound, colon, colonFound, afterFound⟩ := chain
      exact ⟨hash, tool, colon, after, hashFound, toolFound, colonFound, afterFound, directive⟩
    · contradiction
  · rintro ⟨hash, tool, colon, after, hashFound, toolFound, colonFound, afterFound, blank⟩
    simp only [isFileDirective, hashFound, toolFound, colonFound, afterFound, Option.bind_eq_bind,
      Option.bind_some]
    exact blank

/-- A line with such a comment does not take the file out. -/
theorem isFileDirective_append_commentOf (line list : List Char) :
    isFileDirective (line ++ commentOf list) = false := by
  rw [Bool.eq_false_iff]
  intro directive
  obtain ⟨hash, tool, colon, after, hashFound, toolFound, colonFound, afterFound, blank⟩ :=
    isFileDirective_iff.mp directive
  rcases afterSign_append_commentOf hashFound with ⟨inLine, rfl⟩ | rfl
  · -- The sign stands in the line, so the comment is left over at the end.
    obtain ⟨_, rfl⟩ := exists_append_of_afterBlanks? (by decide) (by decide) toolFound
    obtain ⟨_, rfl⟩ := exists_append_of_afterBlanks? (by decide) (by decide) colonFound
    obtain ⟨_, rfl⟩ := exists_append_of_afterBlanks? (by decide) (by decide) afterFound
    rw [List.all_eq_true] at blank
    have signBlank := blank '#' (by simp [commentOf_eq])
    exact absurd signBlank (by decide)
  · have missing : afterBlanks? "annotation-lint".toList (" noqa: ".toList ++ list) = none := rfl
    rw [missing] at toolFound
    contradiction

/-- The first directive of a line that had none is the one in the comment. -/
theorem afterDirective?_append_commentOf {line : List Char} (silent : afterDirective? line = none)
    (list : List Char) :
    afterDirective? (line ++ commentOf list) = some (':' :: ' ' :: list) := by
  induction line with
  | nil => rfl
  | cons char rest ih =>
      rw [afterDirective?] at silent
      rw [List.cons_append, afterDirective?]
      by_cases sign : char = '#'
      · rw [if_pos sign] at silent ⊢
        have appended : afterBlanks? "noqa".toList (rest ++ commentOf list) =
            (afterBlanks? "noqa".toList rest).map (· ++ commentOf list) :=
          afterBlanks?_append_commentOf (by decide) (by decide) rest list
        cases found : afterBlanks? "noqa".toList rest with
        | some after =>
            rw [found] at silent
            contradiction
        | none =>
            rw [found] at silent appended
            rw [appended]
            exact ih silent
      · rw [if_neg sign] at silent ⊢
        exact ih silent

/-- What the comment says are the ids that it writes. -/
theorem directiveIds_written {ids : List String} {list : List Char}
    (written : WrittenIds ids list) :
    directiveIds (':' :: ' ' :: list) = Text.sortedUnique ids := by
  have listChars : ∀ char ∈ ' ' :: list, isListChar char = true := by
    intro char member
    rcases List.mem_cons.mp member with rfl | member
    · decide
    · rcases written.chars char member with alphanumeric | rfl | rfl
      · simp [isListChar, alphanumeric]
      · decide
      · decide
  have colon : afterBlanks? ":".toList (':' :: ' ' :: list) = some (' ' :: list) := rfl
  have blank : ∀ char ∈ [' '], isListSeparator char = true := List.forall_mem_singleton.mpr rfl
  have words := Text.words_append_separators blank list
  rw [directiveIds, colon]
  simp only [List.takeWhile_eq_self_iff.mpr listChars, idsIn]
  rw [← written.map_words, ← words]
  rfl

/-! ## Adding the comment to a text -/

theorem exists_split_modify {α : Type} {items : List α} {index : Nat} {item : α}
    (present : items[index]? = some item) (change : α → α) :
    ∃ before after, items = before ++ item :: after ∧
      items.modify index change = before ++ change item :: after := by
  obtain ⟨less, rfl⟩ := List.getElem?_eq_some_iff.mp present
  refine ⟨items.take index, items.drop (index + 1), ?_, List.modify_eq_take_cons_drop less⟩
  rw [← List.drop_eq_getElem_cons less, List.take_append_drop]

theorem lines_append_commentOf {ids : List String} {list : List Char}
    (written : WrittenIds ids list) (index : Nat) (source : List Char) :
    Text.lines (Text.appendToLine index (commentOf list) source) =
      (Text.lines source).modify index (· ++ commentOf list) := by
  have listUnbroken : '\n' ∉ list := by
    intro member
    rcases written.chars _ member with alphanumeric | same | same
    · exact absurd alphanumeric (by decide)
    · exact absurd same (by decide)
    · exact absurd same (by decide)
  have unbroken : '\n' ∉ commentOf list := by
    simp [commentOf_eq, listUnbroken]
  have plain : (commentOf list).getLast? ≠ some '\r' := by
    obtain ⟨last, ends, alphanumeric⟩ := written.getLast?_isAlphanum
    have whole : commentOf list = [' ', ' ', '#', ' ', 'n', 'o', 'q', 'a', ':', ' '] ++ list := rfl
    rw [whole, List.getLast?_append, ends, Option.some_or]
    intro same
    rw [Option.some.inj same] at alphanumeric
    exact absurd alphanumeric (by decide)
  exact Text.lines_appendToLine unbroken (List.cons_ne_nil _ _) plain index source

section

variable {source line list : List Char} {index : Nat} {ids : List String}
  (present : (Text.lines source)[index]? = some line)
  (plain : isFileDirective line = false) (silent : ¬ HoldsDirective line)
  (written : WrittenIds ids list)

include silent written in
theorem lineIds?_append_commentOf :
    lineIds? line = none ∧ lineIds? (line ++ commentOf list) = some (Text.sortedUnique ids) := by
  have missing := afterDirective?_eq_none_iff.mpr silent
  constructor
  · simp [lineIds?, missing]
  · rw [lineIds?, isFileDirective_append_commentOf, afterDirective?_append_commentOf missing,
      Option.map_some, directiveIds_written written]
    rfl

include present plain written in
theorem skipsFile_append_comment :
    (ofSource (Text.appendToLine index (commentOf list) source)).skipsFile =
      (ofSource source).skipsFile := by
  obtain ⟨before, after, lines_eq, edited_eq⟩ := exists_split_modify present (· ++ commentOf list)
  rw [ofSource_eq, ofSource_eq, lines_append_commentOf written, edited_eq, lines_eq]
  simp [isFileDirective_append_commentOf, plain]

include present silent written in
theorem everyRule_append_comment :
    (ofSource (Text.appendToLine index (commentOf list) source)).everyRule =
      (ofSource source).everyRule := by
  obtain ⟨lineSilent, edited⟩ := lineIds?_append_commentOf silent written
  have lineEntry : ∀ number, everyRuleNumber? (line, number) = none := by
    intro number
    rw [everyRuleNumber?, lineSilent]
  have editedEntry : ∀ number, everyRuleNumber? (line ++ commentOf list, number) = none := by
    intro number
    rw [Option.eq_none_iff_forall_ne_some]
    intro found same
    have everyRule := (everyRuleNumber?_eq_some_iff.mp same).1
    rw [edited] at everyRule
    exact written.sortedUnique_ne_nil (Option.some.inj everyRule)
  obtain ⟨before, after, lines_eq, edited_eq⟩ := exists_split_modify present (· ++ commentOf list)
  rw [ofSource_eq, ofSource_eq, lines_append_commentOf written, edited_eq, lines_eq]
  simp [List.zipIdx_append, List.zipIdx_cons, lineEntry, editedEntry]

include present silent written in
theorem lookup_append_comment (number : Nat) :
    (ofSource (Text.appendToLine index (commentOf list) source)).someRules.lookup number =
      if number = index + 1 then some (Text.sortedUnique ids)
      else (ofSource source).someRules.lookup number := by
  have named : namedIds? (line ++ commentOf list) = some (Text.sortedUnique ids) := by
    rw [namedIds?, (lineIds?_append_commentOf silent written).2]
    cases shape : Text.sortedUnique ids with
    | nil => exact absurd shape written.sortedUnique_ne_nil
    | cons first rest => rfl
  rw [lookup_someRules_ofSource, lookup_someRules_ofSource, lines_append_commentOf written,
    List.getElem?_modify]
  by_cases here : number = index + 1
  · subst here
    simp [present, named]
  · by_cases positive : 1 ≤ number
    · have elsewhere : index ≠ number - 1 := by omega
      simp [here, elsewhere]
    · simp [here, positive]

end

/-- A comment that names ids, put at the end of a line without a directive,
suppresses the rules with these ids on this line.  What is suppressed elsewhere, and
whether the file is checked at all, stays. -/
theorem ofSource_append_comment {source line list : List Char} {index : Nat} {ids : List String}
    (present : (Text.lines source)[index]? = some line)
    (plain : isFileDirective line = false) (silent : ¬ HoldsDirective line)
    (written : WrittenIds ids list) :
    let old := ofSource source
    let new := ofSource (Text.appendToLine index (commentOf list) source)
    new.skipsFile = old.skipsFile ∧ new.everyRule = old.everyRule ∧
      (∀ number, number ≠ index + 1 →
        new.someRules.lookup number = old.someRules.lookup number) ∧
      (∃ set, new.someRules.lookup (index + 1) = some set ∧ ∀ id, id ∈ set ↔ id ∈ ids) ∧
      (old.skipsFile = false →
        (∀ id, new.suppresses (index + 1) id = true ↔ id ∈ ids) ∧
        ∀ number, number ≠ index + 1 → ∀ id,
          new.suppresses number id = old.suppresses number id) := by
  intro old new
  have skips : new.skipsFile = old.skipsFile := skipsFile_append_comment present plain written
  have everyRule : new.everyRule = old.everyRule := everyRule_append_comment present silent written
  have lookups := lookup_append_comment present silent written
  have here : new.someRules.lookup (index + 1) = some (Text.sortedUnique ids) := by
    rw [lookups, if_pos rfl]
  have elsewhere : ∀ number, number ≠ index + 1 →
      new.someRules.lookup number = old.someRules.lookup number := by
    intro number other
    rw [lookups, if_neg other]
  refine ⟨skips, everyRule, elsewhere, ⟨_, here, fun _ => Text.mem_sortedUnique⟩, ?_⟩
  intro checked
  constructor
  · intro id
    have apart : index + 1 ∉ old.everyRule := by
      rw [mem_everyRule_ofSource_iff]
      rintro ⟨_, said⟩
      simp [present, (lineIds?_append_commentOf silent written).1] at said
    rw [suppresses, skips, checked, everyRule, idsAt, here]
    simp [apart, Text.mem_sortedUnique]
  · intro number other id
    rw [suppresses, suppresses, skips, everyRule, idsAt, idsAt, elsewhere number other]

/-- The comment works before a carriage return, after a comment of another kind, in
lower case and with several separators. -/
theorem ofSource_append_comment_before_carriageReturn :
    (Text.lines "x\r\n@a  # no\r\n".toList)[1]? = some "@a  # no".toList ∧
      Text.appendToLine 1 (commentOf "ann001 ,B2".toList) "x\r\n@a  # no\r\n".toList =
        "x\r\n@a  # no  # noqa: ann001 ,B2\r\n".toList ∧
      ∀ id, (ofSource (Text.appendToLine 1 (commentOf "ann001 ,B2".toList)
          "x\r\n@a  # no\r\n".toList)).suppresses 2 id = true ↔ id ∈ ["ANN001", "B2"] := by
  have present : (Text.lines "x\r\n@a  # no\r\n".toList)[1]? = some "@a  # no".toList := by
    decide +kernel
  have silent : ¬ HoldsDirective "@a  # no".toList :=
    afterDirective?_eq_none_iff.mp (by decide +kernel)
  have last : WrittenIds ["B2"] "B2".toList := .last (by decide +kernel) (by decide +kernel)
  have separating : ∀ char ∈ " ,".toList, char = ',' ∨ char = ' ' := by simp
  have written : WrittenIds ["ANN001", "B2"] ("ann001".toList ++ " ,".toList ++ "B2".toList) :=
    .more (by decide +kernel) (by decide +kernel) (by decide +kernel) separating last
  refine ⟨present, by decide +kernel, ?_⟩
  exact ((ofSource_append_comment present (by decide +kernel) silent written).2.2.2.2
    (by decide +kernel)).1

end Suppression

end DecoratorLint
