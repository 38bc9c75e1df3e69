import DecoratorLint.Text.Truncate
import Mathlib.Data.String.Basic

/-!
# Shortened lines

A line is shortened by cutting its bytes, at the offset where the first character that is
too much starts.  This offset is a position between two characters, so the cut takes whole
characters only.  A line that was cut is longer than the limit by its dots, and cutting it
again takes these dots away and puts the same ones there.
-/

namespace DecoratorLint.Text

/-! ## Offsets of characters -/

theorem offsetOfChar?_eq_some_iff {text : List Char} {index offset : Nat} :
    offsetOfChar? text index = some offset ↔
      index < text.length ∧ byteLength (text.take index) = offset := by
  induction text generalizing index offset with
  | nil => simp [offsetOfChar?]
  | cons char rest ih =>
      cases index with
      | zero => simp [offsetOfChar?]
      | succ index =>
          rw [offsetOfChar?, Option.map_eq_some_iff]
          simp only [ih, List.length_cons, List.take_succ_cons, byteLength_cons]
          constructor
          · rintro ⟨before, ⟨inside, rfl⟩, rfl⟩
            exact ⟨Nat.succ_lt_succ inside, rfl⟩
          · rintro ⟨inside, rfl⟩
            exact ⟨_, ⟨Nat.lt_of_succ_lt_succ inside, rfl⟩, rfl⟩

theorem offsetOfChar?_eq_none_iff {text : List Char} {index : Nat} :
    offsetOfChar? text index = none ↔ text.length ≤ index := by
  rw [Option.eq_none_iff_forall_ne_some]
  simp only [ne_eq, offsetOfChar?_eq_some_iff, not_and]
  constructor
  · intro unfound
    by_contra inside
    exact unfound _ (Nat.lt_of_not_le inside) rfl
  · intro short offset inside
    omega

/-- A number of bytes that whole characters fill up holds these characters. -/
theorem takeBytes_byteLength_append (first rest : List Char) :
    takeBytes (first ++ rest) (byteLength first) = first := by
  induction first with
  | nil =>
      cases rest with
      | nil => rfl
      | cons char rest =>
          have wide := char.utf8Size_pos
          rw [List.nil_append, byteLength_nil, takeBytes, if_neg (by omega)]
  | cons char first ih =>
      rw [List.cons_append, byteLength_cons, takeBytes, if_pos (Nat.le_add_right _ _),
        Nat.add_sub_cancel_left, ih]

/-- Cutting at the offset of a character takes the characters before it. -/
theorem takeBytes_of_offsetOfChar? {text : List Char} {index offset : Nat}
    (found : offsetOfChar? text index = some offset) : takeBytes text offset = text.take index := by
  obtain ⟨_, rfl⟩ := offsetOfChar?_eq_some_iff.mp found
  have cut := takeBytes_byteLength_append (text.take index) (text.drop index)
  rwa [List.take_append_drop] at cut

theorem truncate_eq (text : List Char) (limit : Nat) :
    truncate text limit = if text.length ≤ limit then text else text.take limit ++ ellipsis := by
  rw [truncate]
  cases found : offsetOfChar? text limit with
  | none => rw [if_pos (offsetOfChar?_eq_none_iff.mp found)]
  | some offset =>
      have long := (offsetOfChar?_eq_some_iff.mp found).1
      rw [if_neg (Nat.not_le.mpr long)]
      exact congrArg (· ++ ellipsis) (takeBytes_of_offsetOfChar? found)

/-! ## Positions in a string -/

theorem byteLength_eq_utf8ByteSize (text : List Char) :
    byteLength text = (String.ofList text).utf8ByteSize := by
  induction text with
  | nil => rfl
  | cons char rest ih =>
      rw [byteLength_cons, ih, String.ofList_cons, String.utf8ByteSize_append,
        String.utf8ByteSize_singleton]

/-- Between two characters of a string there is a position, and the bytes before it are those
of the characters before it. -/
theorem exists_splits (line : String) (index : Nat) :
    ∃ cut : line.Pos, cut.offset.byteIdx = byteLength (line.toList.take index) ∧
      cut.Splits (String.ofList (line.toList.take index))
        (String.ofList (line.toList.drop index)) := by
  have whole : line = String.ofList (line.toList.take index) ++
      String.ofList (line.toList.drop index) := by
    rw [← String.ofList_append, List.take_append_drop, String.ofList_toList]
  have boundary := String.Pos.Raw.isValid_iff_exists_append.mpr ⟨_, _, whole, rfl⟩
  refine ⟨⟨_, boundary⟩, ?_, whole, rfl⟩
  rw [String.byteIdx_rawEndPos, byteLength_eq_utf8ByteSize]

/-! ## Shortening -/

theorem truncated_eq_self {line : String} {limit : Nat} (short : line.length ≤ limit) :
    truncated line limit = line := by
  rw [truncated, truncate_eq, String.length_toList, if_pos short, String.ofList_toList]

theorem truncated_of_lt {line : String} {limit : Nat} (long : limit < line.length) :
    truncated line limit = String.ofList (line.toList.take limit) ++ "..." := by
  rw [truncated, truncate_eq, String.length_toList, if_neg (Nat.not_le.mpr long),
    String.ofList_append]
  rfl

/-- A string that was cut and marked already is cut at the same place again. -/
theorem truncated_append_ellipsis {kept : String} {limit : Nat} (full : kept.length = limit) :
    truncated (kept ++ "...") limit = kept ++ "..." := by
  have dots : "...".length = 3 := rfl
  have long : limit < (kept ++ "...").length := by
    rw [String.length_append]
    omega
  rw [truncated_of_lt long, String.toList_append, List.take_left' (String.length_toList.trans full),
    String.ofList_toList]

/-- A line of at most `limit` characters stays as it is, and there is nothing to cut.  In a
longer one the offset at which it is cut is a position between two of its characters, and
what the string holds before this position, its first `limit` characters, is kept, with
three dots behind it.  So the result has at most three characters more than the limit, and
shortening it again changes nothing. -/
theorem truncated_at_boundary (line : String) (limit : Nat) :
    (line.length ≤ limit →
      offsetOfChar? line.toList limit = none ∧ truncated line limit = line) ∧
    (limit < line.length →
      ∃ cut : line.Pos, offsetOfChar? line.toList limit = some cut.offset.byteIdx ∧
        (line.sliceTo cut).copy = String.ofList (line.toList.take limit) ∧
        truncated line limit = (line.sliceTo cut).copy ++ "...") ∧
    (truncated line limit).length ≤ limit + 3 ∧
    truncated (truncated line limit) limit = truncated line limit := by
  have count : line.toList.length = line.length := String.length_toList
  refine ⟨?_, ?_, ?_⟩
  · intro short
    exact ⟨offsetOfChar?_eq_none_iff.mpr (by omega), truncated_eq_self short⟩
  · intro long
    obtain ⟨cut, offset, splits⟩ := exists_splits line limit
    have before := splits.copy_sliceTo_eq
    refine ⟨cut, ?_, before, ?_⟩
    · exact offsetOfChar?_eq_some_iff.mpr ⟨by omega, offset.symm⟩
    · rw [before, truncated_of_lt long]
  · rcases Nat.lt_or_ge limit line.length with long | short
    · have full : (String.ofList (line.toList.take limit)).length = limit := by
        rw [String.length_ofList, List.length_take]
        omega
      rw [truncated_of_lt long]
      refine ⟨?_, truncated_append_ellipsis full⟩
      rw [String.length_append, full]
      rfl
    · rw [truncated_eq_self short]
      exact ⟨by omega, truncated_eq_self short⟩

/-- Characters of one to four bytes: the cut behind the fourth is made at the tenth byte, and
one before all of them leaves the dots. -/
theorem truncated_at_boundary_of_wide_chars :
    let line := "aé€😀z"
    4 < line.length ∧
      (∃ cut : line.Pos, cut.offset.byteIdx = 10 ∧ (line.sliceTo cut).copy = "aé€😀" ∧
        truncated line 4 = "aé€😀...") ∧
      truncated "aé€😀..." 4 = "aé€😀..." ∧
      truncated line 0 = "..." ∧ truncated "..." 0 = "..." ∧ truncated line 5 = line := by
  intro line
  have long : 4 < line.length := by decide
  have kept : String.ofList (line.toList.take 4) = "aé€😀" := by decide
  obtain ⟨_, cuts, _, again⟩ := truncated_at_boundary line 4
  obtain ⟨cut, found, before, said⟩ := cuts long
  obtain ⟨_, _, _, againDots⟩ := truncated_at_boundary line 0
  have place : offsetOfChar? line.toList 4 = some 10 := by decide
  have dots : truncated line 0 = "..." := by decide
  rw [kept] at before
  rw [before] at said
  have shown : truncated line 4 = "aé€😀..." := said
  rw [shown] at again
  rw [dots] at againDots
  exact ⟨long, ⟨cut, Option.some.inj (found.symm.trans place), before, shown⟩, again, dots,
    againDots, ((truncated_at_boundary line 5).1 (by decide)).2⟩

end DecoratorLint.Text
