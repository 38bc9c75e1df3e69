import DecoratorLint.Proofs.DirectiveMeaning
import DecoratorLint.Proofs.DottedUse

/-!
# Heads and their paths

A path is read by cutting it at its points, and a head is written by putting points behind
the segments of its qualifier.  The two undo one another.  A path is refused exactly when
some segment of it is empty, which shows at one of its ends or between two points.
-/

namespace DecoratorLint

namespace Text

/-! ## Cutting and joining -/

/-- A text is its pieces with the separator between them. -/
theorem joined_pieces (separator : Char) (text : List Char) :
    joined [separator] (pieces (· = separator) text) = text := by
  induction text using separator_induction (· = separator) with
  | last word free => rw [pieces_of_free free, joined_singleton]
  | more word found rest free separates ih =>
      obtain rfl : found = separator := of_decide_eq_true separates
      rw [pieces_append_separator free separates]
      cases shape : pieces (· = found) rest with
      | nil => exact absurd shape (pieces_ne_nil _ rest)
      | cons piece more =>
          rw [joined_cons_cons, ← shape, ih, List.append_assoc, List.singleton_append]

theorem joinWith_splitAt (separator : Char) (text : String) :
    joinWith (String.singleton separator) (splitAt separator text) = text := by
  rw [joinWith, map_toList_splitAt, String.toList_singleton, joined_pieces, String.ofList_toList]

/-- A text has an empty piece when there is nothing before, behind or between its
separators. -/
theorem empty_mem_splitAt_iff {separator : Char} {text : String} :
    "" ∈ splitAt separator text ↔
      text = "" ∨ [separator] <+: text.toList ∨ [separator] <:+ text.toList ∨
        [separator, separator] <:+: text.toList := by
  have empty : "" ∈ splitAt separator text ↔ [] ∈ pieces (· = separator) text.toList := by
    simp [splitAt]
  rw [empty, mem_pieces_iff]
  constructor
  · rintro ⟨_, before, after, split, opens, closes⟩
    rw [List.append_nil] at split
    -- On either side of the empty piece there is a separator or an end of the text.
    rcases opens with rfl | ⟨front, first, firstSeparates, rfl⟩ <;>
      rcases closes with rfl | ⟨last, rest, lastSeparates, rfl⟩
    · exact .inl (by simpa using split)
    · obtain rfl : last = separator := of_decide_eq_true lastSeparates
      exact .inr (.inl ⟨rest, split.symm⟩)
    · obtain rfl : first = separator := of_decide_eq_true firstSeparates
      exact .inr (.inr (.inl ⟨front, by simp [split]⟩))
    · obtain rfl : first = separator := of_decide_eq_true firstSeparates
      obtain rfl : last = first := of_decide_eq_true lastSeparates
      exact .inr (.inr (.inr ⟨front, rest, by simp [split]⟩))
  · intro shape
    refine ⟨by simp, ?_⟩
    have separates : decide (separator = separator) = true := decide_eq_true rfl
    rcases shape with rfl | ⟨rest, split⟩ | ⟨front, split⟩ | ⟨front, rest, split⟩
    · exact ⟨[], [], rfl, .inl rfl, .inl rfl⟩
    · exact ⟨[], separator :: rest, split.symm, .inl rfl, .inr ⟨separator, rest, separates, rfl⟩⟩
    · exact ⟨front ++ [separator], [], by simp [split], .inr ⟨front, separator, separates, rfl⟩,
        .inl rfl⟩
    · exact ⟨front ++ [separator], separator :: rest, by simp [← split],
        .inr ⟨front, separator, separates, rfl⟩, .inr ⟨separator, rest, separates, rfl⟩⟩

/-- The part of a text after its last separator, or all of a text without one. -/
def AfterLast (separator : Char) (text part : String) : Prop :=
  separator ∉ part.toList ∧
    (text = part ∨ ∃ before, text = before ++ String.singleton separator ++ part)

end Text

namespace Head

/-! ## Written forms -/

/-- A head that a path can name: its segments are neither empty nor dotted, and a qualified
one has a qualifier. -/
structure IsProper (head : Head) : Prop where
  segments : ∀ segment ∈ head.segments, segment ≠ "" ∧ '.' ∉ segment.toList
  qualifier : ∀ qualifier last, head = .qualified qualifier last → qualifier ≠ []

@[simp]
theorem path_simple (name : String) : (Head.simple name).path = name := by
  simp [path, Text.joinWith]

/-- A qualified head is written with a point behind each segment of its qualifier. -/
theorem path_qualified (qualifier : List String) (last : String) :
    (Head.qualified qualifier last).path =
      String.join (qualifier.map fun segment => segment ++ ".") ++ last := by
  rw [path, Text.joinWith_eq_intercalate, segments_qualified]
  induction qualifier with
  | nil => simp
  | cons first rest ih =>
      rw [List.cons_append, String.intercalate_cons_of_ne_nil (by simp), ih, List.map_cons,
        String.join_cons]
      exact String.append_assoc.symm

theorem segments_ne_nil (head : Head) : head.segments ≠ [] := by
  cases head <;> simp

/-! ## Reading paths -/

theorem ofSegments?_eq_some_iff {segments : List String} {head : Head} :
    ofSegments? segments = some head ↔
      head.segments = segments ∧
        ∀ qualifier last, head = .qualified qualifier last → qualifier ≠ [] := by
  constructor
  · intro named
    rcases List.eq_nil_or_concat' segments with rfl | ⟨qualifier, last, rfl⟩
    · cases named
    · rw [ofSegments?_concat, Option.some.injEq] at named
      subst named
      split
      · rename_i empty
        simp [empty]
      · rename_i nonempty
        refine ⟨rfl, ?_⟩
        rintro _ _ ⟨⟩
        exact nonempty
  · rintro ⟨rfl, nonempty⟩
    cases head with
    | simple name => rfl
    | qualified qualifier last =>
        rw [segments_qualified, ofSegments?_concat, if_neg (nonempty qualifier last rfl)]

/-- A path with an empty segment is refused, and any other is read segment by segment. -/
theorem ofPath?_eq (path : String) :
    ofPath? path =
      if "" ∈ Text.splitAt '.' path then none else ofSegments? (Text.splitAt '.' path) := by
  have empty : (Text.splitAt '.' path).any String.isEmpty = true ↔ "" ∈ Text.splitAt '.' path := by
    simp
  simp only [ofPath?, empty]

theorem ofPath?_eq_none_iff {path : String} :
    ofPath? path = none ↔ "" ∈ Text.splitAt '.' path := by
  rw [ofPath?_eq]
  split
  · rename_i empty
    simp [empty]
  · rename_i filled
    obtain ⟨qualifier, last, shape⟩ :=
      (List.eq_nil_or_concat' _).resolve_left (Text.splitAt_ne_nil '.' path)
    rw [shape] at filled ⊢
    simp [ofSegments?_concat, filled]

/-- A path is read as a head exactly when it is the written form of this head. -/
theorem ofPath?_eq_some_iff {path : String} {head : Head} :
    ofPath? path = some head ↔ head.IsProper ∧ head.path = path := by
  constructor
  · intro named
    rw [ofPath?_eq] at named
    split at named
    · cases named
    · rename_i filled
      obtain ⟨shape, nonempty⟩ := ofSegments?_eq_some_iff.mp named
      refine ⟨⟨?_, nonempty⟩, ?_⟩
      · rw [shape]
        intro segment member
        exact ⟨fun empty => filled (empty ▸ member), Text.not_mem_of_mem_splitAt member⟩
      · rw [Head.path, shape]
        exact Text.joinWith_splitAt '.' path
  · rintro ⟨proper, rfl⟩
    rw [Head.path, ofPath?_joinWith head.segments_ne_nil proper.segments,
      ofSegments?_eq_some_iff]
    exact ⟨rfl, proper.qualifier⟩

/-- The simple name of a proper head is what its path has after the last point, and a point
is there exactly when the head is qualified. -/
theorem IsProper.afterLast_path {head : Head} (proper : head.IsProper) :
    Text.AfterLast '.' head.path head.simpleName ∧
      ((∃ qualifier last, head = .qualified qualifier last) ↔ '.' ∈ head.path.toList) := by
  cases head with
  | simple name =>
      have plain : '.' ∉ name.toList := (proper.segments name (by simp)).2
      exact ⟨⟨plain, .inl (path_simple name)⟩, by simp [plain]⟩
  | qualified qualifier last =>
      obtain ⟨front, segment, rfl⟩ :=
        (List.eq_nil_or_concat' qualifier).resolve_left (proper.qualifier qualifier last rfl)
      have plain : '.' ∉ last.toList := (proper.segments last (by simp)).2
      have written : (Head.qualified (front ++ [segment]) last).path =
          String.join (front.map (· ++ ".")) ++ segment ++ String.singleton '.' ++ last := by
        rw [path_qualified, List.map_append, String.join_append]
        simp [String.append_assoc]
      rw [written]
      exact ⟨⟨plain, .inr ⟨_, rfl⟩⟩, by simp⟩

/-- Paths and heads are two forms of one thing.  A path names nothing exactly when it is
empty, when it starts or ends with a point, or when two points stand side by side.
Otherwise the head that it names is written as this path; it is qualified exactly when the
path has a point, then with a qualifier that is not empty, and its simple name is what
follows the last point.  Every proper head is named by its written form, in which a point
stands behind each segment of the qualifier. -/
theorem ofPath?_undoes_path :
    (∀ path, ofPath? path = none ↔
      path = "" ∨ ['.'] <+: path.toList ∨ ['.'] <:+ path.toList ∨ ['.', '.'] <:+: path.toList) ∧
    (∀ path head, ofPath? path = some head →
      head.path = path ∧
      ((∃ qualifier last, head = .qualified qualifier last) ↔ '.' ∈ path.toList) ∧
      (∀ qualifier last, head = .qualified qualifier last → qualifier ≠ []) ∧
      Text.AfterLast '.' path head.simpleName) ∧
    (∀ head : Head, head.IsProper → ofPath? head.path = some head) ∧
    (∀ name, (Head.simple name).path = name) ∧
    ∀ qualifier last, (Head.qualified qualifier last).path =
      String.join (qualifier.map fun segment => segment ++ ".") ++ last := by
  refine ⟨?_, ?_, ?_, path_simple, path_qualified⟩
  · intro path
    rw [ofPath?_eq_none_iff, Text.empty_mem_splitAt_iff]
  · intro path head named
    obtain ⟨proper, rfl⟩ := ofPath?_eq_some_iff.mp named
    obtain ⟨simpleName, qualified⟩ := proper.afterLast_path
    exact ⟨rfl, qualified, proper.qualifier, simpleName⟩
  · intro head proper
    exact ofPath?_eq_some_iff.mpr ⟨proper, rfl⟩

/-- A path with three segments, one with a single segment, and one that ends with a point. -/
theorem ofPath?_undoes_path_of_segments :
    let head : Head := .qualified ["pkg", "sub"] "Target"
    ofPath? "pkg.sub.Target" = some head ∧ head.path = "pkg.sub.Target" ∧
      Text.AfterLast '.' "pkg.sub.Target" "Target" ∧ head.IsProper ∧
      ofPath? head.path = some head ∧
      (¬ ∃ qualifier last, Head.simple "Target" = .qualified qualifier last) ∧
      ofPath? "pkg.sub." = none := by
  intro head
  obtain ⟨refuses, reads, writes, _⟩ := ofPath?_undoes_path
  have named : ofPath? "pkg.sub.Target" = some head := by decide
  have proper : head.IsProper := ⟨by decide, by simp [head]⟩
  obtain ⟨written, _, _, simpleName⟩ := reads _ _ named
  obtain ⟨_, pointed, _⟩ := reads "Target" (.simple "Target") (by decide)
  refine ⟨named, written, simpleName, proper, writes head proper, ?_, ?_⟩
  · rw [pointed]
    decide
  · exact (refuses "pkg.sub.").mpr (.inr (.inr (.inl ⟨"pkg.sub".toList, by decide⟩)))

end Head

end DecoratorLint
