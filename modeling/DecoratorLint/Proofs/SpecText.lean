import DecoratorLint.Proofs.DirectiveMeaning
import DecoratorLint.Proofs.PathText
import DecoratorLint.Proofs.RulesOfRun

/-!
# Specifications as texts

On the command line a specification is a name, an equals sign and parameters between
commas, with blanks wherever they do no harm.  A text can be read exactly when one word
stands before its first equals sign.  What is read has a written form without needless
blanks and commas, and the specifications that come from texts are exactly those that are
read back from this form.
-/

namespace DecoratorLint

open Suppression (AllBlank)

namespace Text

/-! ## Blanks at the ends of a text -/

/-- A text that neither starts nor ends with a blank. -/
def Bare (text : List Char) : Prop :=
  (∀ char ∈ text.head?, isBlank char = false) ∧ ∀ char ∈ text.getLast?, isBlank char = false
deriving Decidable

/-- What a text is without the blanks at its ends. -/
def TrimsTo (text core : List Char) : Prop :=
  ∃ before after, text = before ++ core ++ after ∧ AllBlank before ∧ AllBlank after ∧ Bare core

theorem dropWhile_isBlank_eq_iff {text rest : List Char} :
    text.dropWhile isBlank = rest ↔
      ∃ before, text = before ++ rest ∧ AllBlank before ∧
        ∀ char ∈ rest.head?, isBlank char = false := by
  constructor
  · rintro rfl
    refine ⟨text.takeWhile isBlank, List.takeWhile_append_dropWhile.symm, ?_, ?_⟩
    · exact fun char member => List.mem_takeWhile_imp member
    · intro char first
      have stopped := List.head?_dropWhile_not isBlank text
      rwa [Option.mem_def.mp first] at stopped
  · rintro ⟨before, rfl, blank, visible⟩
    rw [List.dropWhile_append_of_pos blank]
    cases rest with
    | nil => rfl
    | cons char rest => rw [List.dropWhile_cons_of_neg (by simp [visible char rfl])]

theorem trimsTo_trim (text : List Char) : TrimsTo text (trim text) := by
  obtain ⟨before, whole, blankBefore, first⟩ :=
    dropWhile_isBlank_eq_iff.mp (Eq.refl (text.dropWhile isBlank))
  obtain ⟨after, reversed, blankAfter, last⟩ :=
    dropWhile_isBlank_eq_iff.mp (Eq.refl ((text.dropWhile isBlank).reverse.dropWhile isBlank))
  have split : text.dropWhile isBlank = trim text ++ after.reverse := by
    rw [← List.reverse_reverse (text.dropWhile isBlank), reversed, List.reverse_append, trim]
  rw [split] at whole first
  refine ⟨before, after.reverse, by rwa [List.append_assoc], blankBefore, ?_, ?_, ?_⟩
  · exact fun char member => blankAfter char (List.mem_reverse.mp member)
  · intro char member
    apply first
    rw [List.head?_append, Option.mem_def.mp member, Option.some_or]
    rfl
  · intro char member
    apply last
    rwa [trim, List.getLast?_reverse] at member

theorem TrimsTo.trim_eq {text core : List Char} (trims : TrimsTo text core) :
    trim text = core := by
  obtain ⟨before, after, rfl, blankBefore, blankAfter, first, last⟩ := trims
  rw [List.append_assoc, trim, List.dropWhile_append_of_pos blankBefore]
  cases core with
  | nil =>
      rw [List.nil_append, List.dropWhile_eq_nil_iff.mpr blankAfter]
      rfl
  | cons char core =>
      have visible : isBlank char ≠ true := by
        simp [first char rfl]
      rw [List.cons_append, List.dropWhile_cons_of_neg visible, ← List.cons_append,
        List.reverse_eq_iff, dropWhile_isBlank_eq_iff]
      refine ⟨after.reverse, List.reverse_append, ?_, ?_⟩
      · exact fun other member => blankAfter other (List.mem_reverse.mp member)
      · rwa [List.head?_reverse]

theorem trim_eq_iff {text core : List Char} : trim text = core ↔ TrimsTo text core := by
  constructor
  · rintro rfl
    exact trimsTo_trim text
  · exact TrimsTo.trim_eq

theorem Bare.trim_eq {text : List Char} (bare : Bare text) : trim text = text :=
  trim_eq_iff.mpr ⟨[], [], by simp, by simp [AllBlank], by simp [AllBlank], bare⟩

/-- A text without blanks is trimmed. -/
theorem bare_of_free {text : List Char} (free : ∀ char ∈ text, isBlank char = false) :
    Bare text :=
  ⟨fun char first => free char (List.mem_of_head? first),
    fun char last => free char (List.mem_of_getLast? last)⟩

end Text

namespace RuleSpec

open Text (Bare TrimsTo)

/-! ## Parameters between commas -/

/-- A parameter that can be written: not empty, without a comma, and without blanks at its
ends.  Blanks inside it and equals signs do no harm. -/
def IsParameter (parameter : String) : Prop :=
  parameter ≠ "" ∧ ',' ∉ parameter.toList ∧ Bare parameter.toList
deriving Decidable

theorem isParameter_of_mem_namesOf {text : List Char} {name : String}
    (member : name ∈ namesOf text) : IsParameter name := by
  simp only [namesOf, List.mem_map, List.mem_filter] at member
  obtain ⟨core, ⟨⟨piece, inside, trims⟩, nonempty⟩, rfl⟩ := member
  obtain ⟨before, after, rfl, _, _, bare⟩ := Text.trim_eq_iff.mp trims
  have free := (Text.between_of_mem_pieces inside).1
  refine ⟨by simpa using nonempty, ?_, by simpa using bare⟩
  intro comma
  rw [String.toList_ofList] at comma
  simpa using free ',' (by simp [comma])

/-- Parameters that can be written are read from the text that joins them with commas. -/
theorem namesOf_intercalate {parameters : List String}
    (written : ∀ parameter ∈ parameters, IsParameter parameter) :
    namesOf (",".intercalate parameters).toList = parameters := by
  by_cases empty : parameters = []
  · subst empty
    rfl
  · have free : ∀ parameter ∈ parameters, ',' ∉ parameter.toList :=
      fun parameter member => (written parameter member).2.1
    have parted : Text.splitAt ',' (",".intercalate parameters) = parameters := by
      have joined := Text.splitAt_joinWith empty free
      rwa [Text.joinWith_eq_intercalate] at joined
    have pieces : Text.pieces (· = ',') (",".intercalate parameters).toList =
        parameters.map String.toList := by
      rw [← Text.map_toList_splitAt, parted]
    have trimmed : (parameters.map String.toList).map Text.trim = parameters.map String.toList := by
      simpa using fun parameter member => (written parameter member).2.2.trim_eq
    have kept : (parameters.map String.toList).filter (!·.isEmpty) =
        parameters.map String.toList := by
      simpa [List.filter_eq_self] using fun parameter member => (written parameter member).1
    rw [namesOf, pieces, trimmed, kept]
    simp [Function.comp_def]

/-! ## The name before the equals sign -/

/-- The part of a text before its first equals sign, or all of a text without one. -/
def BeforeEquals (text part : List Char) : Prop :=
  '=' ∉ part ∧ (text = part ∨ ∃ rest, text = part ++ '=' :: rest)

/-- One word: not empty, and without blanks. -/
def IsOneWord (name : List Char) : Prop :=
  name ≠ [] ∧ ∀ char ∈ name, Text.isBlank char = false
deriving Decidable

theorem decide_ne_equals {part : List Char} (absent : '=' ∉ part) :
    ∀ char ∈ part, decide (char ≠ '=') = true := by
  intro char member
  have apart : char ≠ '=' := fun same => absent (same ▸ member)
  simpa using apart

theorem splitAtEquals_append {part : List Char} (absent : '=' ∉ part) (rest : List Char) :
    splitAtEquals (part ++ '=' :: rest) = (part, rest) := by
  have before := decide_ne_equals absent
  rw [splitAtEquals, List.takeWhile_append_of_pos before, List.dropWhile_append_of_pos before]
  simp

theorem fst_splitAtEquals_of_not_mem {text : List Char} (absent : '=' ∉ text) :
    (splitAtEquals text).1 = text := by
  rw [splitAtEquals, List.takeWhile_eq_self_iff]
  exact decide_ne_equals absent

theorem beforeEquals_iff {text part : List Char} :
    BeforeEquals text part ↔ (splitAtEquals text).1 = part := by
  constructor
  · rintro ⟨absent, rfl | ⟨rest, rfl⟩⟩
    · exact fst_splitAtEquals_of_not_mem absent
    · rw [splitAtEquals_append absent]
  · rintro rfl
    by_cases present : '=' ∈ text
    · obtain ⟨before, rest, rfl, absent⟩ := List.eq_append_cons_of_mem present
      rw [splitAtEquals_append absent]
      exact ⟨absent, .inr ⟨rest, rfl⟩⟩
    · rw [fst_splitAtEquals_of_not_mem present]
      exact ⟨present, .inl rfl⟩

/-- A text is read when the part before its first equals sign is one word with blanks
around it; that word is the target. -/
theorem ofText?_eq_some_iff {text : String} {spec : RuleSpec} :
    ofText? text = some spec ↔
      ∃ part name, BeforeEquals text.toList part ∧ TrimsTo part name ∧ IsOneWord name ∧
        spec = { target := some (String.ofList name)
                 parameters := namesOf (splitAtEquals text.toList).2 } := by
  simp only [beforeEquals_iff, ← Text.trim_eq_iff, ofText?]
  generalize splitAtEquals text.toList = parts
  constructor
  · intro read
    split at read
    · contradiction
    · rename_i accepted
      refine ⟨parts.1, Text.trim parts.1, rfl, rfl, ?_, (Option.some.inj read).symm⟩
      simpa [IsOneWord] using accepted
  · rintro ⟨part, name, rfl, rfl, ⟨nonempty, free⟩, rfl⟩
    rw [if_neg]
    simpa [nonempty] using free

/-! ## Written forms -/

/-- A specification that the command line can state: a target that is one word without an
equals sign, parameters that can be written, and nothing else. -/
structure IsWritable (spec : RuleSpec) : Prop where
  target : ∃ name, spec.target = some name ∧ IsOneWord name.toList ∧ '=' ∉ name.toList
  parameters : ∀ parameter ∈ spec.parameters, IsParameter parameter
  severity : spec.severity = none
  id : spec.id = none
  message : spec.message = none

/-- The written form of a specification. -/
def toText (spec : RuleSpec) : String :=
  spec.target.getD "" ++ "=" ++ ",".intercalate spec.parameters

theorem isWritable_of_ofText {text : String} {spec : RuleSpec} (read : ofText text = .ok spec) :
    spec.IsWritable := by
  obtain ⟨part, name, ⟨absent, _⟩, trims, word, rfl⟩ :=
    ofText?_eq_some_iff.mp (ofText_eq_ok_iff.mp read)
  obtain ⟨before, after, rfl, _⟩ := trims
  refine ⟨⟨String.ofList name, rfl, ?_, ?_⟩, ?_, rfl, rfl, rfl⟩
  · rwa [String.toList_ofList]
  · rw [String.toList_ofList]
    exact fun inside => absent (by simp [inside])
  · exact fun parameter member => isParameter_of_mem_namesOf member

theorem IsWritable.ofText_toText {spec : RuleSpec} (writable : spec.IsWritable) :
    ofText spec.toText = .ok spec := by
  obtain ⟨target, parameters, severity, id, message⟩ := spec
  obtain ⟨⟨name, rfl, word, absent⟩, written, rfl, rfl, rfl⟩ := writable
  have shape : (toText { target := some name, parameters }).toList =
      name.toList ++ '=' :: (",".intercalate parameters).toList := by
    simp [toText]
  have bare := Text.bare_of_free word.2
  rw [ofText_eq_ok_iff, ofText?_eq_some_iff, shape]
  refine ⟨name.toList, name.toList, ⟨absent, .inr ⟨_, rfl⟩⟩, ?_, word, ?_⟩
  · exact Text.trim_eq_iff.mp bare.trim_eq
  · rw [splitAtEquals_append absent, namesOf_intercalate written, String.ofList_toList]

/-- A text is read exactly when what stands before its first equals sign is one word, apart
from blanks at its ends.  The specifications that come from texts are exactly the writable
ones, and each of these is read back from its written form.  So writing what was read and
reading it again changes nothing, and what was read always has a valid id. -/
theorem ofText_grammar :
    (∀ text, (∃ spec, ofText text = .ok spec) ↔
      ∃ part name, BeforeEquals text.toList part ∧ TrimsTo part name ∧ IsOneWord name) ∧
    (∀ spec, (∃ text, ofText text = .ok spec) ↔ spec.IsWritable) ∧
    (∀ spec : RuleSpec, spec.IsWritable → ofText spec.toText = .ok spec) ∧
    ∀ text spec, ofText text = .ok spec →
      ofText spec.toText = .ok spec ∧ spec.validate = .ok () := by
  refine ⟨?_, ?_, fun spec writable => writable.ofText_toText, ?_⟩
  · intro text
    simp only [ofText_eq_ok_iff, ofText?_eq_some_iff]
    constructor
    · rintro ⟨spec, part, name, before, trims, word, _⟩
      exact ⟨part, name, before, trims, word⟩
    · rintro ⟨part, name, before, trims, word⟩
      exact ⟨_, part, name, before, trims, word, rfl⟩
  · intro spec
    constructor
    · rintro ⟨text, read⟩
      exact isWritable_of_ofText read
    · intro writable
      exact ⟨spec.toText, writable.ofText_toText⟩
  · intro text spec read
    refine ⟨(isWritable_of_ofText read).ofText_toText, ?_⟩
    rw [validate, if_pos (hasValidId_iff.mpr (isRuleId_of_ofText read))]

/-- Blanks around the name and the parameters, an empty parameter, and a parameter with an
equals sign and a blank inside. -/
theorem ofText_grammar_with_needless_blanks :
    let spec : RuleSpec := { target := some "route", parameters := ["methods", "end point=1"] }
    ofText "\u00a0route =methods,, end point=1\t" = .ok spec ∧
      spec.IsWritable ∧ spec.toText = "route=methods,end point=1" ∧
      ofText "route=methods,end point=1" = .ok spec ∧ spec.validate = .ok () ∧
      ¬ ∃ spec, ofText "my route=id" = .ok spec := by
  intro spec
  obtain ⟨accepts, image, _, again⟩ := ofText_grammar
  have read : ofText "\u00a0route =methods,, end point=1\t" = .ok spec := by
    decide +kernel
  have written : spec.toText = "route=methods,end point=1" := by
    decide +kernel
  obtain ⟨back, valid⟩ := again _ _ read
  refine ⟨read, (image spec).mp ⟨_, read⟩, written, written ▸ back, valid, ?_⟩
  rw [accepts]
  rintro ⟨part, name, before, trims, _, free⟩
  rw [beforeEquals_iff] at before
  rw [← Text.trim_eq_iff, ← before] at trims
  have inside : ' ' ∈ name := by
    rw [← trims]
    decide
  exact absurd (free ' ' inside) (by decide)

end RuleSpec

end DecoratorLint
