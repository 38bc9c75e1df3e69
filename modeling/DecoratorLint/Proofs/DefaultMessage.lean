import DecoratorLint.Proofs.MessageTemplate

/-!
# Reading the default message

The default message names the decorator and lists what it requires, between brackets and
with commas.  As long as the names keep clear of these marks, the list can be read back
from the message: between its last brackets stand the required names and nothing else.
-/

namespace DecoratorLint

/-! ## Between the last marks of a text -/

namespace Text

/-- The part of a text between its last opening mark and its last closing mark. -/
def BetweenLast (opening closing : Char) (text part : List Char) : Prop :=
  ∃ before after, text = before ++ opening :: (part ++ closing :: after) ∧
    opening ∉ part ++ closing :: after ∧ closing ∉ after

/-- A text is taken apart at the last occurrence of a mark in one way only. -/
theorem split_last_unique {mark : Char} {first second rest other : List Char}
    (same : first ++ mark :: rest = second ++ mark :: other) (absent : mark ∉ rest)
    (otherAbsent : mark ∉ other) : first = second ∧ rest = other := by
  rcases List.append_eq_append_iff.mp same with ⟨middle, rfl, right⟩ | ⟨middle, rfl, right⟩
  · cases middle with
    | nil => simpa using right
    | cons char middle =>
        obtain ⟨_, rfl⟩ := List.cons.inj right
        simp at absent
  · cases middle with
    | nil => simpa using right.symm
    | cons char middle =>
        obtain ⟨_, rfl⟩ := List.cons.inj right
        simp at otherAbsent

theorem BetweenLast.unique {opening closing : Char} {text part other : List Char}
    (between : BetweenLast opening closing text part)
    (otherBetween : BetweenLast opening closing text other) : part = other := by
  obtain ⟨before, after, rfl, unopened, unclosed⟩ := between
  obtain ⟨otherBefore, otherAfter, same, otherUnopened, otherUnclosed⟩ := otherBetween
  have tails := (split_last_unique same unopened otherUnopened).2
  exact (split_last_unique tails unclosed otherUnclosed).1

theorem mem_joined {separator : List Char} {parts : List (List Char)} {char : Char}
    (member : char ∈ joined separator parts) :
    char ∈ separator ∨ ∃ part ∈ parts, char ∈ part := by
  fun_induction joined separator parts with
  | case1 => contradiction
  | case2 part => exact .inr ⟨part, List.mem_singleton_self part, member⟩
  | case3 part more _ ih =>
      simp only [List.mem_append] at member
      rcases member with (inPart | inSeparator) | later
      · exact .inr ⟨part, List.mem_cons_self, inPart⟩
      · exact .inl inSeparator
      · rcases ih later with inSeparator | ⟨other, listed, inOther⟩
        · exact .inl inSeparator
        · exact .inr ⟨other, List.mem_cons_of_mem part listed, inOther⟩

/-- Joining brings in no character but those of the separator. -/
theorem not_mem_joinWith {separator : String} {parts : List String} {char : Char}
    (foreign : char ∉ separator.toList) (absent : ∀ part ∈ parts, char ∉ part.toList) :
    char ∉ (joinWith separator parts).toList := by
  rw [joinWith, String.toList_ofList]
  intro member
  rcases mem_joined member with inSeparator | ⟨part, listed, inPart⟩
  · exact foreign inSeparator
  · obtain ⟨name, named, rfl⟩ := List.mem_map.mp listed
    exact absent name named inPart

end Text

namespace Rule

/-! ## The default message -/

/-- A rule about the decorator of a name, with the default message, whose names keep clear
of the marks in the message: the name of the decorator opens no place, and in the required
names there is neither a comma nor an opening bracket. -/
structure Legible (rule : Rule) (name : String) : Prop where
  template : rule.template = defaultTemplate
  target : rule.target = some name
  unopened : '{' ∉ name.toList
  unmarked : ∀ parameter ∈ rule.required, ',' ∉ parameter.toList ∧ '(' ∉ parameter.toList
  increasing : rule.required.Pairwise (· < ·)

/-- The default message up to the list. -/
def openingText (name : String) : String :=
  "Annotation @" ++ name ++ " missing one of these required parameters: ("

theorem defaultTemplate_toList :
    defaultTemplate.toList =
      "Annotation @".toList ++ (targetPlace.toList ++
        (" missing one of these required parameters: (".toList ++
          (parametersPlace.toList ++ [')']))) := by
  decide +kernel

theorem replace_target_defaultTemplate (name : String) :
    Text.replace targetPlace.toList name.toList defaultTemplate.toList =
      (openingText name).toList ++ (parametersPlace.toList ++ [')']) := by
  have last : Text.replace targetPlace.toList name.toList [')'] = [')'] := by
    simpa using replace_target_append_of_free name.toList (show '{' ∉ [')'] by decide) []
  rw [defaultTemplate_toList, replace_target_append_of_free name.toList (by decide),
    Text.replace_append_fragment name.toList (by decide),
    replace_target_append_of_free name.toList (by decide),
    replace_target_append_parametersPlace, last]
  simp [openingText]

theorem replace_parameters_append_of_free (parameters : List Char) {free : List Char}
    (unopened : '{' ∉ free) (rest : List Char) :
    Text.replace parametersPlace.toList parameters (free ++ rest) =
      free ++ Text.replace parametersPlace.toList parameters rest := by
  rw [parametersPlace_toList]
  exact Text.replace_append_of_free parameters unopened rest

/-- A name that opens no place leaves the one place for the list, which ends the message. -/
theorem message_of_defaultTemplate {rule : Rule} {name : String}
    (template : rule.template = defaultTemplate) (target : rule.target = some name)
    (unopened : '{' ∉ name.toList) :
    rule.message = openingText name ++ rule.requiredText ++ ")" := by
  have free : '{' ∉ (openingText name).toList := by
    simp only [openingText, String.toList_append, List.mem_append, not_or]
    exact ⟨⟨by decide, unopened⟩, by decide⟩
  have last : Text.replace parametersPlace.toList rule.requiredText.toList [')'] = [')'] := by
    simpa using replace_parameters_append_of_free rule.requiredText.toList
      (show '{' ∉ [')'] by decide) []
  rw [message_eq, target, template, Option.getD_some, replace_target_defaultTemplate,
    replace_parameters_append_of_free _ free, Text.replace_append_fragment _ (by decide), last]
  simp [String.ofList_append, String.append_assoc]

/-! ## Reading it -/

section

variable {rule : Rule} {name : String} (legible : rule.Legible name)

include legible

theorem Legible.message_eq_openingText_append :
    rule.message = openingText name ++ rule.requiredText ++ ")" :=
  message_of_defaultTemplate legible.template legible.target legible.unopened

/-- Between the last brackets of the message stands the list, and nothing else does. -/
theorem Legible.betweenLast_message_iff {part : List Char} :
    Text.BetweenLast '(' ')' rule.message.toList part ↔ part = rule.requiredText.toList := by
  have unopened : '(' ∉ rule.requiredText.toList :=
    Text.not_mem_joinWith (by decide) fun parameter member => (legible.unmarked parameter member).2
  -- Brackets in the name of the decorator stand before the bracket of the list.
  have listed : Text.BetweenLast '(' ')' rule.message.toList rule.requiredText.toList := by
    refine ⟨("Annotation @" ++ name ++ " missing one of these required parameters: ").toList, [],
      ?_, ?_, List.not_mem_nil⟩
    · rw [legible.message_eq_openingText_append]
      simp [openingText]
    · simpa using unopened
  constructor
  · intro between
    exact between.unique listed
  · rintro rfl
    exact listed

/-- What a rule says about a use, and how the required names are read from it. -/
theorem Legible.of_verdict? {use : Use} {text : String} (verdict : rule.verdict? use = some text) :
    text = openingText name ++ rule.requiredText ++ ")" ∧
      (∀ part, Text.BetweenLast '(' ')' text.toList part ↔ part = rule.requiredText.toList) ∧
      Text.splitAt ',' rule.requiredText = rule.required := by
  obtain ⟨_, short, rfl⟩ := verdict?_eq_some_iff.mp verdict
  have nonempty : rule.required ≠ [] := List.ne_nil_of_length_pos (Nat.zero_lt_of_lt short)
  refine ⟨legible.message_eq_openingText_append, fun part => legible.betweenLast_message_iff, ?_⟩
  exact Text.splitAt_joinWith nonempty fun parameter member =>
    (legible.unmarked parameter member).1

end

/-- The default message of a rule whose names keep clear of its marks.  It starts with the
name of the decorator, and the part between its last brackets, cut at the commas, is the
increasing list of the required names.  A use that repeats no keyword and lacks a required
name does get this message.  Two such rules about one decorator that say the same require
the same names. -/
theorem verdict?_reads_back {rule : Rule} {name : String} (legible : rule.Legible name) :
    (∀ use text, rule.verdict? use = some text →
      (∃ rest, text =
        "Annotation @" ++ name ++ " missing one of these required parameters: (" ++ rest) ∧
      ∃ listed : String,
        (∀ part, Text.BetweenLast '(' ')' text.toList part ↔ part = listed.toList) ∧
        Text.splitAt ',' listed = rule.required) ∧
    (∀ use : Use, use.simpleName = name →
      (∃ parameter ∈ rule.required, parameter ∉ use.parameterNames) →
      use.parameterNames.Nodup → (rule.verdict? use).isSome = true) ∧
    ∀ other : Rule, other.Legible name → ∀ use otherUse text,
      rule.verdict? use = some text → other.verdict? otherUse = some text →
        rule.required = other.required := by
  refine ⟨?_, ?_, ?_⟩
  · intro use text verdict
    obtain ⟨said, between, parted⟩ := legible.of_verdict? verdict
    refine ⟨⟨rule.requiredText ++ ")", ?_⟩, rule.requiredText, between, parted⟩
    rw [said, openingText, String.append_assoc]
  · intro use used missing distinct
    rw [isSome_verdict?_iff_foundCount_lt, used,
      foundCount_lt_length_iff (legible.increasing.imp ne_of_lt) distinct]
    exact ⟨legible.target, missing⟩
  · intro other otherLegible use otherUse text verdict otherVerdict
    obtain ⟨_, between, parted⟩ := legible.of_verdict? verdict
    obtain ⟨_, otherBetween, otherParted⟩ := otherLegible.of_verdict? otherVerdict
    have same : rule.requiredText = other.requiredText :=
      String.toList_injective ((otherBetween _).mp ((between _).mpr rfl))
    rw [← parted, ← otherParted, same]

/-- A decorator whose name has brackets, is a fragment of a word in the template and closes a
place; three required names, of which one looks like a place. -/
theorem verdict?_reads_back_of_odd_names :
    let rule : Rule :=
      { template := defaultTemplate
        target := some "meter(s)\x7d"
        required := ["at", "id", "\x7bannotation\x7d"] }
    let use : Use :=
      { head := .qualified ["app"] "meter(s)\x7d", arguments := [.pair "id"], offset := 0 }
    let message := "Annotation @meter(s)\x7d missing one of these required parameters: " ++
      "(at,id,\x7bannotation\x7d)"
    rule.Legible "meter(s)\x7d" ∧ (rule.verdict? use).isSome = true ∧
      rule.verdict? use = some message ∧
      ∃ listed : String, Text.BetweenLast '(' ')' message.toList listed.toList ∧
        Text.splitAt ',' listed = ["at", "id", "\x7bannotation\x7d"] := by
  intro rule use message
  have legible : rule.Legible "meter(s)\x7d" := ⟨rfl, rfl, by decide, by decide, by decide⟩
  have verdict : rule.verdict? use = some message := by
    decide +kernel
  have missing : "at" ∉ use.parameterNames := by
    decide
  obtain ⟨reads, speaks, _⟩ := verdict?_reads_back legible
  obtain ⟨_, listed, between, parted⟩ := reads use message verdict
  refine ⟨legible, ?_, verdict, listed, (between _).mpr rfl, parted⟩
  exact speaks use rfl ⟨"at", by decide, missing⟩ (by decide)

end Rule

end DecoratorLint
