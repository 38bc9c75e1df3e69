import DecoratorLint.Proofs.PathText
import DecoratorLint.Proofs.Shortfall

/-!
# Filling a message template

A message is made by two replacements, one after the other: first every place for the
decorator is filled, then every place for the parameters in the result.  The second one
also sees what the first one put in.  One would rather have both kinds of places filled
at once.  For names without braces the two agree on every template, unless the name is a
fragment of the word between the braces of the second place: only then can text that was
put in complete such a place.
-/

namespace DecoratorLint

/-! ## Replacing a fragment -/

namespace Text

theorem replaceFrom_length_append (fragment replacement word rest : List Char) :
    replaceFrom fragment replacement word.length (word ++ rest) =
      replaceFrom fragment replacement 0 rest := by
  induction word with
  | nil => rfl
  | cons char word ih => exact ih

section

variable {fragment : List Char} (replacement : List Char)

theorem replace_append_fragment (nonempty : fragment ≠ []) (rest : List Char) :
    replace fragment replacement (fragment ++ rest) =
      replacement ++ replace fragment replacement rest := by
  cases fragment with
  | nil => contradiction
  | cons first word =>
      have starts : (first :: word).isPrefixOf (first :: (word ++ rest)) = true :=
        List.isPrefixOf_iff_prefix.mpr (List.prefix_append (first :: word) rest)
      rw [List.cons_append, replace, replaceFrom, if_pos starts, List.length_cons,
        Nat.add_sub_cancel, replaceFrom_length_append, replace]

theorem replace_cons_of_other {char : Char} {rest : List Char}
    (other : ¬ fragment <+: char :: rest) :
    replace fragment replacement (char :: rest) = char :: replace fragment replacement rest := by
  rw [replace, replaceFrom, if_neg fun starts => other (List.isPrefixOf_iff_prefix.mp starts),
    replace]

/-- Text in which the fragment cannot start stays as it is. -/
theorem replace_append_of_free {first : Char} {word free : List Char} (absent : first ∉ free)
    (rest : List Char) :
    replace (first :: word) replacement (free ++ rest) =
      free ++ replace (first :: word) replacement rest := by
  induction free with
  | nil => rfl
  | cons char free ih =>
      have other : ¬ first :: word <+: char :: (free ++ rest) := by
        intro starts
        exact absent (by simp [(List.cons_prefix_cons.mp starts).1])
      rw [List.cons_append, replace_cons_of_other replacement other,
        ih fun member => absent (List.mem_cons_of_mem char member), List.cons_append]

end

/-- What a text starts with ends before a character that it does not hold. -/
theorem prefix_of_prefix_append {stop : Char} {word text rest : List Char} (absent : stop ∉ word)
    (starts : word <+: text ++ stop :: rest) : word <+: text := by
  have upToStop : text ++ [stop] <+: text ++ stop :: rest := ⟨rest, by simp⟩
  rcases List.prefix_or_prefix_of_prefix starts upToStop with within | beyond
  · rcases List.prefix_concat_iff.mp within with rfl | before
    · simp at absent
    · exact before
  · exact absurd (beyond.subset (by simp)) absent

/-- A word up to a stop that the replacement does not hold.  If a text starts with it after
a replacement, then the text started with it before, or the replacement went into the
word. -/
theorem prefix_of_prefix_replace {fragment replacement : List Char} {stop : Char}
    (nonempty : fragment ≠ []) (absent : stop ∉ replacement) {word text : List Char}
    (starts : word ++ [stop] <+: replace fragment replacement text) :
    word ++ [stop] <+: text ∨ replacement <:+: word := by
  induction text generalizing word with
  | nil => simp at starts
  | cons char rest ih =>
      by_cases found : fragment <+: char :: rest
      · obtain ⟨tail, split⟩ := found
        rw [← split, replace_append_fragment replacement nonempty] at starts
        obtain ⟨more, shape⟩ := starts
        have inside : replacement <+: word ++ stop :: more :=
          ⟨replace fragment replacement tail, by rw [← shape]; simp⟩
        exact .inr (prefix_of_prefix_append absent inside).isInfix
      · rw [replace_cons_of_other replacement found] at starts
        cases word with
        | nil =>
            obtain ⟨rfl, _⟩ := List.cons_prefix_cons.mp starts
            exact .inl ⟨rest, rfl⟩
        | cons letter word =>
            obtain ⟨rfl, inner⟩ := List.cons_prefix_cons.mp starts
            rcases ih inner with before | within
            · exact .inl (List.cons_prefix_cons.mpr ⟨rfl, before⟩)
            · exact .inr (List.infix_cons within)

end Text

/-! ## Filling both places at once -/

namespace Rule

/-- The word between the braces of the place for the parameters. -/
def parametersWord : List Char :=
  "parameters".toList

/-- A template with both kinds of places filled in one pass from left to right.  What was
put in is not looked at again. -/
def filled (name parameters : List Char) : List Char → List Char
  | [] => []
  | char :: rest =>
      if targetPlace.toList <+: char :: rest then
        name ++ filled name parameters (rest.drop (targetPlace.length - 1))
      else if parametersPlace.toList <+: char :: rest then
        parameters ++ filled name parameters (rest.drop (parametersPlace.length - 1))
      else
        char :: filled name parameters rest
termination_by template => template.length

/-- `filled` on strings. -/
def filledAtOnce (template name parameters : String) : String :=
  String.ofList (filled name.toList parameters.toList template.toList)

theorem targetPlace_toList : targetPlace.toList = '{' :: ('a' :: "nnotation".toList ++ ['}']) := by
  decide

theorem parametersPlace_toList : parametersPlace.toList = '{' :: (parametersWord ++ ['}']) := by
  decide

/-- The text after a place at the start. -/
theorem drop_of_starts {place : String} {char : Char} {rest : List Char}
    (starts : place.toList <+: char :: rest) (nonempty : place.toList ≠ []) :
    char :: rest = place.toList ++ rest.drop (place.length - 1) := by
  obtain ⟨tail, split⟩ := starts
  rw [← String.length_toList]
  cases letters : place.toList with
  | nil => contradiction
  | cons first word =>
      rw [letters] at split
      obtain ⟨rfl, rfl⟩ := List.cons.inj split
      simp

section

variable (name parameters : List Char)

theorem filled_cons_of_other {char : Char} {rest : List Char}
    (noTarget : ¬ targetPlace.toList <+: char :: rest)
    (noParameters : ¬ parametersPlace.toList <+: char :: rest) :
    filled name parameters (char :: rest) = char :: filled name parameters rest := by
  rw [filled, if_neg noTarget, if_neg noParameters]

theorem filled_append_of_free {free : List Char} (unopened : '{' ∉ free) (rest : List Char) :
    filled name parameters (free ++ rest) = free ++ filled name parameters rest := by
  induction free with
  | nil => rfl
  | cons char free ih =>
      have differs : '{' ≠ char := List.ne_of_not_mem_cons unopened
      have inner := ih (List.not_mem_of_not_mem_cons unopened)
      rw [List.cons_append, filled_cons_of_other, inner, List.cons_append]
      · rw [targetPlace_toList]
        exact fun starts => differs (List.cons_prefix_cons.mp starts).1
      · rw [parametersPlace_toList]
        exact fun starts => differs (List.cons_prefix_cons.mp starts).1

theorem filled_targetPlace_append (rest : List Char) :
    filled name parameters (targetPlace.toList ++ rest) = name ++ filled name parameters rest := by
  cases letters : targetPlace.toList with
  | nil => exact absurd letters (by decide)
  | cons first word =>
      have starts : targetPlace.toList <+: first :: (word ++ rest) :=
        letters ▸ List.prefix_append (first :: word) rest
      have split := drop_of_starts starts (by decide)
      rw [letters, List.cons_append, List.cons.injEq] at split
      rw [List.cons_append, filled, if_pos starts, ← List.append_cancel_left split.2]

end

theorem replace_target_append_of_free (name : List Char) {free : List Char}
    (unopened : '{' ∉ free) (rest : List Char) :
    Text.replace targetPlace.toList name (free ++ rest) =
      free ++ Text.replace targetPlace.toList name rest := by
  rw [targetPlace_toList]
  exact Text.replace_append_of_free name unopened rest

/-- The place for the parameters holds no place for the decorator. -/
theorem replace_target_append_parametersPlace (name rest : List Char) :
    Text.replace targetPlace.toList name (parametersPlace.toList ++ rest) =
      parametersPlace.toList ++ Text.replace targetPlace.toList name rest := by
  have word : parametersWord = 'p' :: "arameters".toList := by decide
  have other : ¬ targetPlace.toList <+: '{' :: (parametersWord ++ ['}'] ++ rest) := by
    rw [targetPlace_toList, word]
    intro starts
    have second := (List.cons_prefix_cons.mp starts).2
    exact absurd (List.cons_prefix_cons.mp second).1 (by decide)
  rw [parametersPlace_toList, List.cons_append, Text.replace_cons_of_other name other,
    replace_target_append_of_free name (by decide), List.cons_append]

section

variable {name : List Char} (unopened : '{' ∉ name) (unclosed : '}' ∉ name)

include unopened unclosed

/-- A name without braces that is no fragment of the word between the braces completes no
place, so that both kinds of places are filled at once. -/
theorem replace_replace_eq_filled (apart : ¬ name <:+: parametersWord)
    (parameters template : List Char) :
    Text.replace parametersPlace.toList parameters (Text.replace targetPlace.toList name template) =
      filled name parameters template := by
  fun_induction filled name parameters template with
  | case1 => rfl
  | case2 char rest starts ih =>
      rw [drop_of_starts starts (by decide), Text.replace_append_fragment name (by decide)]
      rw [← ih, parametersPlace_toList, Text.replace_append_of_free parameters unopened]
  | case3 char rest other starts ih =>
      rw [drop_of_starts starts (by decide), replace_target_append_parametersPlace,
        Text.replace_append_fragment parameters (by decide), ih]
  | case4 char rest other noPlace ih =>
      rw [Text.replace_cons_of_other name other]
      have still : ¬ parametersPlace.toList <+:
          char :: Text.replace targetPlace.toList name rest := by
        intro starts
        rw [parametersPlace_toList] at starts noPlace
        obtain ⟨rfl, inner⟩ := List.cons_prefix_cons.mp starts
        rcases Text.prefix_of_prefix_replace (by decide) unclosed inner with before | within
        · exact noPlace (List.cons_prefix_cons.mpr ⟨rfl, before⟩)
        · exact apart within
      rw [Text.replace_cons_of_other parameters still, ih]

end

/-! ## Completing a place -/

/-- A place inside braces with parts of a word around it. -/
def nested (before after : List Char) : List Char :=
  '{' :: (before ++ (targetPlace.toList ++ (after ++ ['}'])))

section

variable {name before after : List Char} (word : before ++ name ++ after = parametersWord)

include word

theorem not_mem_of_word {brace : Char} (foreign : brace ∉ parametersWord) :
    brace ∉ before ∧ brace ∉ after := by
  rw [← word] at foreign
  simp only [List.mem_append, not_or] at foreign
  exact ⟨foreign.1.1, foreign.2⟩

/-- No place starts at the outer brace, since the inner one opens before the outer one
closes. -/
theorem not_prefix_nested {inner : List Char} (unopened : '{' ∉ inner) :
    ¬ '{' :: (inner ++ ['}']) <+: nested before after := by
  rw [nested, targetPlace_toList, List.cons_append]
  intro starts
  have inside := (List.cons_prefix_cons.mp starts).2
  have short := Text.prefix_of_prefix_append (by simpa using unopened) inside
  have unclosed : '}' ∉ before := (not_mem_of_word word (by decide)).1
  exact unclosed (short.subset (by simp))

theorem not_targetPlace_prefix_nested : ¬ targetPlace.toList <+: nested before after := by
  rw [targetPlace_toList]
  exact not_prefix_nested word (by decide)

theorem not_parametersPlace_prefix_nested :
    ¬ parametersPlace.toList <+: nested before after := by
  rw [parametersPlace_toList]
  exact not_prefix_nested word (by decide)

/-- With the fragment that is missing between the two parts, the braces are a place for the
parameters. -/
theorem cons_append_eq_parametersPlace :
    '{' :: (before ++ (name ++ (after ++ ['}']))) = parametersPlace.toList := by
  rw [parametersPlace_toList, ← word]
  simp

/-- The first replacement makes a place for the second one. -/
theorem replace_target_nested :
    Text.replace targetPlace.toList name (nested before after) = parametersPlace.toList := by
  obtain ⟨beforeFree, afterFree⟩ := not_mem_of_word word (show '{' ∉ parametersWord by decide)
  have outer := Text.replace_cons_of_other name (not_targetPlace_prefix_nested word)
  have last : Text.replace targetPlace.toList name (after ++ ['}']) = after ++ ['}'] := by
    simpa using replace_target_append_of_free name
      (show '{' ∉ after ++ ['}'] by simpa using afterFree) []
  rw [nested, outer, replace_target_append_of_free name beforeFree,
    Text.replace_append_fragment name (by decide), last, cons_append_eq_parametersPlace word]

/-- In one pass the word is put together and left alone. -/
theorem filled_nested (parameters : List Char) :
    filled name parameters (nested before after) = parametersPlace.toList := by
  obtain ⟨beforeFree, afterFree⟩ := not_mem_of_word word (show '{' ∉ parametersWord by decide)
  have outer := filled_cons_of_other name parameters (not_targetPlace_prefix_nested word)
    (not_parametersPlace_prefix_nested word)
  have last : filled name parameters (after ++ ['}']) = after ++ ['}'] := by
    simpa [filled] using filled_append_of_free name parameters
      (show '{' ∉ after ++ ['}'] by simpa using afterFree) []
  rw [nested, outer, filled_append_of_free name parameters beforeFree, filled_targetPlace_append,
    last, cons_append_eq_parametersPlace word]

end

/-! ## Messages -/

theorem message_eq (rule : Rule) :
    rule.message =
      String.ofList (Text.replace parametersPlace.toList rule.requiredText.toList
        (Text.replace targetPlace.toList (rule.target.getD "").toList rule.template.toList)) := by
  simp [message, Text.replaceAll]

/-- A rule whose template is a place inside braces says the parameters alone, if its name
completes the place around it. -/
theorem message_nested {rule : Rule} {name : String} {before after : List Char}
    (named : rule.target = some name) (word : before ++ name.toList ++ after = parametersWord)
    (template : rule.template = String.ofList (nested before after)) :
    rule.message = rule.requiredText := by
  have whole := Text.replace_append_fragment rule.requiredText.toList
    (show parametersPlace.toList ≠ [] by decide) []
  rw [List.append_nil, Text.replace_nil, List.append_nil] at whole
  rw [message_eq, named, template, String.toList_ofList, Option.getD_some,
    replace_target_nested word, whole, String.ofList_toList]

/-- A name without braces.  Whatever the template and the required names, the message for a
use of a decorator with this name is the template with both kinds of places filled at once,
and where no keyword is repeated there is such a message: all of this holds exactly when the
name is no fragment of the word between the braces of the place for the parameters. -/
theorem message_eq_filledAtOnce_iff {name : String} (unopened : '{' ∉ name.toList)
    (unclosed : '}' ∉ name.toList) :
    (∀ (rule : Rule) (use : Use), rule.target = some name → rule.required ≠ [] →
      rule.required.Pairwise (· < ·) → use.simpleName = name →
      (∃ parameter ∈ rule.required, parameter ∉ use.parameterNames) →
        (∀ text, rule.verdict? use = some text →
          text = filledAtOnce rule.template name (",".intercalate rule.required)) ∧
        (use.parameterNames.Nodup → (rule.verdict? use).isSome = true)) ↔
      ¬ name.toList <:+: "parameters".toList := by
  constructor
  · rintro filledAlways ⟨before, after, word⟩
    let rule : Rule :=
      { template := String.ofList (nested before after), target := some name, required := ["x"] }
    let use : Use := { head := .simple name, arguments := [], offset := 0 }
    have missing : "x" ∉ use.parameterNames := List.not_mem_nil
    obtain ⟨same, speaks⟩ := filledAlways rule use rfl (List.cons_ne_nil _ _)
      (List.pairwise_singleton _ _) rfl ⟨"x", List.mem_singleton_self _, missing⟩
    obtain ⟨text, verdict⟩ := Option.isSome_iff_exists.mp (speaks List.nodup_nil)
    have said : text = "x" := by
      rw [(verdict?_eq_some_iff.mp verdict).2.2]
      exact message_nested rfl word rfl
    have meant : text = parametersPlace := by
      rw [same text verdict, filledAtOnce, String.toList_ofList, filled_nested word,
        String.ofList_toList]
    exact absurd (said.symm.trans meant) (by decide)
  · intro apart rule use named _ increasing used missing
    have nodup : rule.required.Nodup := increasing.imp fun less => less.ne
    constructor
    · intro text verdict
      rw [(verdict?_eq_some_iff.mp verdict).2.2, message_eq, named, Option.getD_some,
        replace_replace_eq_filled unopened unclosed apart, requiredText,
        Text.joinWith_eq_intercalate, filledAtOnce]
    · intro distinct
      rw [isSome_verdict?_iff_foundCount_lt, used]
      exact ⟨named, (foundCount_lt_length_iff nodup distinct).mpr missing⟩

/-- One template, a place inside braces and another place after it.  The name `route` is
put into the braces; the name `meter` is a fragment and makes them a place. -/
theorem message_eq_filledAtOnce_iff_for_names :
    let rule (name : String) : Rule :=
      { template := "\x7bpara\x7bannotation\x7ds\x7d: \x7bparameters\x7d"
        target := some name
        required := ["at", "id"] }
    let use (name : String) : Use := { head := .simple name, arguments := [.pair "id"], offset := 0 }
    '{' ∉ "route".toList ∧ '}' ∉ "route".toList ∧ ¬ "route".toList <:+: "parameters".toList ∧
      (rule "route").verdict? (use "route") =
        some (filledAtOnce (rule "route").template "route" "at,id") ∧
      "meter".toList <:+: "parameters".toList ∧
      (rule "meter").verdict? (use "meter") = some "at,id: at,id" := by
  intro rule use
  have unopened : '{' ∉ "route".toList := by decide
  have unclosed : '}' ∉ "route".toList := by decide
  have apart : ¬ "route".toList <:+: "parameters".toList := by decide +kernel
  have always := (message_eq_filledAtOnce_iff unopened unclosed).mpr apart
  obtain ⟨same, speaks⟩ := always (rule "route") (use "route") rfl (by simp [rule])
    (by decide) rfl ⟨"at", by simp [rule], by decide⟩
  obtain ⟨text, verdict⟩ := Option.isSome_iff_exists.mp (speaks (by decide))
  have joined : ",".intercalate ["at", "id"] = "at,id" := by decide
  refine ⟨unopened, unclosed, apart, ?_, by decide +kernel, by decide +kernel⟩
  rw [verdict, same text verdict, joined]

end Rule

end DecoratorLint
