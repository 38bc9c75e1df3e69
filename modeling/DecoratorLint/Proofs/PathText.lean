import DecoratorLint.Files.Path
import Mathlib.Data.List.Basic
import Mathlib.Data.String.Basic

/-!
# Names in paths

A name has an extension exactly when it is something followed by a point and the
extension.  The segments of a path that is made by joining are those of its parts.
-/

namespace DecoratorLint

/-! ## Pieces between separators -/

namespace Text

theorem map_toList_splitAt (separator : Char) (text : String) :
    (splitAt separator text).map String.toList = pieces (· = separator) text.toList := by
  simp [splitAt, Function.comp_def]

theorem splitAt_of_free {separator : Char} {name : String} (free : separator ∉ name.toList) :
    splitAt separator name = [name] := by
  rw [splitAt, pieces_of_free]
  · simp
  · intro char member
    have apart : char ≠ separator := fun same => free (same ▸ member)
    simpa using apart

theorem splitAt_append (separator : Char) (first rest : String) :
    splitAt separator (first ++ String.singleton separator ++ rest) =
      splitAt separator first ++ splitAt separator rest := by
  have separates : decide (separator = separator) = true := by
    simp
  simp only [splitAt, String.toList_append, String.toList_singleton, List.append_assoc,
    List.singleton_append]
  rw [pieces_append separates, List.map_append]

theorem splitAt_ne_nil (separator : Char) (text : String) : splitAt separator text ≠ [] := by
  simp [splitAt, pieces_ne_nil]

/-- A text with a separator, taken apart at the last one. -/
theorem exists_split_last {separator : Char} {text : String} (member : separator ∈ text.toList) :
    ∃ first last, text = first ++ String.singleton separator ++ last ∧ separator ∉ last.toList := by
  obtain ⟨last, first, split, absent⟩ :=
    List.eq_append_cons_of_mem (List.mem_reverse.mpr member)
  refine ⟨String.ofList first.reverse, String.ofList last.reverse, ?_, by simpa using absent⟩
  apply String.toList_injective
  have forward : text.toList = (last ++ separator :: first).reverse := by
    rw [← split, List.reverse_reverse]
  simp [forward]

/-- Only the empty text has an empty piece and no other. -/
theorem splitAt_eq_singleton_empty_iff {separator : Char} {text : String} :
    splitAt separator text = [""] ↔ text = "" := by
  constructor
  · intro single
    by_cases member : separator ∈ text.toList
    · obtain ⟨first, last, rfl, _⟩ := exists_split_last member
      rw [splitAt_append, List.append_eq_singleton_iff] at single
      simp [splitAt_ne_nil] at single
    · rw [splitAt_of_free member] at single
      exact List.cons.inj single |>.1
  · rintro rfl
    rfl

/-- Pieces are joined as the library joins strings. -/
theorem joinWith_eq_intercalate (separator : String) (parts : List String) :
    joinWith separator parts = separator.intercalate parts := by
  apply String.toList_injective
  rw [joinWith, String.toList_ofList]
  induction parts with
  | nil => simp
  | cons first rest ih =>
      cases rest with
      | nil => simp
      | cons second rest =>
          rw [List.map_cons, List.map_cons, joined_cons_cons, String.intercalate_cons_cons,
            String.toList_append, String.toList_append, ← ih, List.map_cons]

/-- Parts without the separator can be told apart again after they were joined. -/
theorem splitAt_joinWith {separator : Char} {parts : List String} (nonempty : parts ≠ [])
    (free : ∀ part ∈ parts, separator ∉ part.toList) :
    splitAt separator (joinWith (String.singleton separator) parts) = parts := by
  rw [joinWith_eq_intercalate]
  induction parts with
  | nil => contradiction
  | cons first rest ih =>
      have firstFree := free first List.mem_cons_self
      have restFree := fun part member => free part (List.mem_cons_of_mem first member)
      cases rest with
      | nil => rw [String.intercalate_singleton, splitAt_of_free firstFree]
      | cons second rest =>
          rw [String.intercalate_cons_cons, splitAt_append, splitAt_of_free firstFree,
            ih (List.cons_ne_nil second rest) restFree, List.singleton_append]

end Text

namespace Path

/-! ## Extensions -/

theorem hasExtension_iff {extension : String} (free : '.' ∉ extension.toList) (name : String) :
    hasExtension extension name = true ↔
      ∃ stem, stem ≠ "" ∧ name = stem ++ String.singleton '.' ++ extension := by
  constructor
  · intro has
    simp only [hasExtension, Bool.and_eq_true, decide_eq_true_eq] at has
    obtain ⟨⟨last, several⟩, before⟩ := has
    by_cases member : '.' ∈ name.toList
    · obtain ⟨stem, ending, rfl, absent⟩ := Text.exists_split_last member
      rw [Text.splitAt_append, Text.splitAt_of_free absent] at last before
      rw [List.dropLast_concat, Ne, Text.splitAt_eq_singleton_empty_iff] at before
      rw [List.getLast?_concat, Option.some.injEq] at last
      exact ⟨stem, before, by rw [last]⟩
    · simp [Text.splitAt_of_free member] at several
  · rintro ⟨stem, nonempty, rfl⟩
    have some := List.length_pos_iff.mpr (Text.splitAt_ne_nil '.' stem)
    rw [hasExtension, Text.splitAt_append, Text.splitAt_of_free free]
    simp [Text.splitAt_eq_singleton_empty_iff, nonempty]
    omega

/-! ## Joined paths -/

/-- Whether a text can be the name of an entry of a folder. -/
def IsName (name : String) : Prop :=
  name ≠ "" ∧ name ≠ "." ∧ name ≠ ".." ∧ '/' ∉ name.toList
deriving Decidable

theorem IsName.segments_eq {name : String} (proper : IsName name) : segments name = [name] :=
  Text.splitAt_of_free proper.2.2.2

theorem IsName.not_isAbsolute {name : String} (proper : IsName name) :
    isAbsolute name = false := by
  rw [isAbsolute, decide_eq_false_iff_not]
  exact fun slash => proper.2.2.2 (List.mem_of_head? slash)

theorem join_eq {path name : String} (nonempty : path ≠ "") (proper : IsName name) :
    join path name =
      if path.toList.getLast? = some '/' then path ++ name
      else path ++ String.singleton '/' ++ name := by
  rw [join, proper.not_isAbsolute, Bool.false_or, decide_eq_false nonempty,
    if_neg Bool.false_ne_true]
  rfl

/-- A name below a path is one more segment, which takes the place of the empty one
behind a slash at the end of the path. -/
theorem segments_join {path name : String} (nonempty : path ≠ "") (proper : IsName name) :
    ∃ front, segments (join path name) = front ++ [name] ∧
      (segments path = front ∨ segments path = front ++ [""]) := by
  rw [join_eq nonempty proper, ← proper.segments_eq]
  split
  · rename_i slash
    have shape : path = String.ofList path.toList.dropLast ++ String.singleton '/' := by
      apply String.toList_injective
      simpa using (List.dropLast_append_getLast? '/' slash).symm
    generalize String.ofList path.toList.dropLast = before at shape
    subst shape
    refine ⟨segments before, Text.splitAt_append '/' before name, .inr ?_⟩
    have parted := Text.splitAt_append '/' before ""
    rw [String.append_empty] at parted
    exact parted
  · exact ⟨segments path, Text.splitAt_append '/' path name, .inl rfl⟩

theorem isAbsolute_join {path name : String} (nonempty : path ≠ "") (proper : IsName name) :
    isAbsolute (join path name) = isAbsolute path := by
  have written : path.toList ≠ [] := by
    simpa using nonempty
  obtain ⟨char, rest, shape⟩ := List.exists_cons_of_ne_nil written
  rw [join_eq nonempty proper]
  split <;> simp [isAbsolute, shape]

theorem join_ne_empty {path name : String} (nonempty : path ≠ "") (proper : IsName name) :
    join path name ≠ "" := by
  rw [join_eq nonempty proper]
  split <;> simp [nonempty]

end Path

end DecoratorLint
