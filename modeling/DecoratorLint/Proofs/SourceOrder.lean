import DecoratorLint.Proofs.Disabling
import DecoratorLint.Proofs.Sighting
import DecoratorLint.Proofs.TextLines

/-!
# Source order

A program is laid out when what stands first in its statements also starts first in
the text.  The layout is said locally, for one statement list at a time.  It makes
the walk meet decorators from left to right, and the violations come out from left
to right, too: by offset, and at one decorator by the position of the rule.
-/

namespace DecoratorLint

namespace Source

/-! ## Layout -/

/-- A decorator occurs somewhere in a statement list. -/
def Occurs (body : List Stmt) (decorator : Expr) : Prop :=
  ∃ place, decoratorAt? body place = some decorator

/-- Every decorator of the first list starts before every decorator of the
second. -/
def Precedes (first second : List Stmt) : Prop :=
  ∀ earlier later, Occurs first earlier → Occurs second later → earlier.start < later.start

/-- Decorators that start one after the other. -/
def Ascending (decorators : List Expr) : Prop :=
  decorators.Pairwise fun earlier later => earlier.start < later.start

instance (decorators : List Expr) : Decidable (Ascending decorators) :=
  inferInstanceAs (Decidable (List.Pairwise _ decorators))

/-- What a statement holds stands in the order of the text: its own decorators, then
the statement lists in the order of their names. -/
structure Stmt.InOrder (statement : Stmt) : Prop where
  own : Ascending statement.ownDecorators
  ownFirst : ∀ slot block, statement.block? slot = some block →
    ∀ earlier ∈ statement.ownDecorators, ∀ later, Occurs block later → earlier.start < later.start
  blocks : ∀ firstSlot secondSlot first second, firstSlot.Before secondSlot →
    statement.block? firstSlot = some first → statement.block? secondSlot = some second →
      Precedes first second

/-- The statements of a list are in order and follow each other, and it is the same in
every list that they hold. -/
inductive LaidOut : List Stmt → Prop where
  | intro {body : List Stmt}
      (statements : ∀ statement ∈ body, statement.InOrder)
      (siblings : body.Pairwise fun first second => Precedes [first] [second])
      (inner : ∀ statement ∈ body, ∀ slot block, statement.block? slot = some block →
        LaidOut block) :
      LaidOut body

theorem occurs_iff_mem {body : List Stmt} {decorator : Expr} :
    Occurs body decorator ↔ decorator ∈ bodyDecorators body :=
  mem_bodyDecorators_iff.symm

theorem precedes_iff {first second : List Stmt} :
    Precedes first second ↔
      ∀ earlier ∈ bodyDecorators first, ∀ later ∈ bodyDecorators second,
        earlier.start < later.start := by
  simp only [Precedes, occurs_iff_mem]
  constructor
  · intro precedes earlier earlierMember later laterMember
    exact precedes earlier later earlierMember laterMember
  · intro precedes earlier later earlierMember laterMember
    exact precedes earlier earlierMember later laterMember

theorem ascending_bodyDecorators_iff {body : List Stmt} :
    Ascending (bodyDecorators body) ↔
      (∀ statement ∈ body, Ascending statement.decorators) ∧
        body.Pairwise fun first second => Precedes [first] [second] := by
  rw [bodyDecorators_eq_flatMap, Ascending, List.pairwise_flatMap]
  simp only [precedes_iff, bodyDecorators_eq_flatMap, List.flatMap_singleton, Ascending]

/-- The statement lists of a statement follow each other exactly when any two of them
do whose names say so. -/
theorem pairwise_precedes_blocks_iff {statement : Stmt} :
    (statement.blocks.Pairwise fun first second => Precedes first.2 second.2) ↔
      ∀ firstSlot secondSlot first second, firstSlot.Before secondSlot →
        statement.block? firstSlot = some first → statement.block? secondSlot = some second →
          Precedes first second := by
  have ordered := Stmt.pairwise_before_blocks statement
  constructor
  · intro follow firstSlot secondSlot first second before firstHeld secondHeld
    let related := fun one other : Slot × List Stmt => one.1.Before other.1 → Precedes one.2 other.2
    have forward : statement.blocks.Pairwise related := by
      apply follow.imp
      intro _ _ precedes _
      exact precedes
    have backward : statement.blocks.Pairwise (flip related) := by
      apply ordered.imp
      intro _ _ before reversed
      exact absurd reversed before.asymm
    have same : ∀ entry ∈ statement.blocks, related entry entry := by
      intro entry _ before
      exact absurd rfl before.ne
    exact forward.forall_of_forall_of_flip same backward (Stmt.mem_blocks_iff.mpr firstHeld)
      (Stmt.mem_blocks_iff.mpr secondHeld) before
  · intro follow
    apply ordered.imp_of_mem
    rintro ⟨firstSlot, first⟩ ⟨secondSlot, second⟩ firstHeld secondHeld before
    exact follow firstSlot secondSlot first second before (Stmt.mem_blocks_iff.mp firstHeld)
      (Stmt.mem_blocks_iff.mp secondHeld)

/-- The decorators in a statement ascend exactly when it is in order and they ascend
in every list that it holds. -/
theorem ascending_decorators_iff {statement : Stmt} :
    Ascending statement.decorators ↔
      statement.InOrder ∧ ∀ slot block, statement.block? slot = some block →
        Ascending (bodyDecorators block) := by
  rw [Ascending, Stmt.decorators_eq, List.pairwise_append, List.pairwise_flatMap]
  constructor
  · rintro ⟨own, ⟨inner, blocks⟩, ownFirst⟩
    refine ⟨⟨own, ?_, ?_⟩, ?_⟩
    · intro slot block held earlier earlierMember later occurs
      exact ownFirst earlier earlierMember later (List.mem_flatMap.mpr
        ⟨(slot, block), Stmt.mem_blocks_iff.mpr held, occurs_iff_mem.mp occurs⟩)
    · apply pairwise_precedes_blocks_iff.mp
      apply blocks.imp
      intro _ _
      exact precedes_iff.mpr
    · intro slot block held
      exact inner (slot, block) (Stmt.mem_blocks_iff.mpr held)
  · rintro ⟨⟨own, ownFirst, blocks⟩, inner⟩
    refine ⟨own, ⟨?_, ?_⟩, ?_⟩
    · rintro ⟨slot, block⟩ held
      exact inner slot block (Stmt.mem_blocks_iff.mp held)
    · apply (pairwise_precedes_blocks_iff.mpr blocks).imp
      intro _ _
      exact precedes_iff.mp
    · intro earlier earlierMember later laterMember
      obtain ⟨⟨slot, block⟩, held, member⟩ := List.mem_flatMap.mp laterMember
      exact ownFirst slot block (Stmt.mem_blocks_iff.mp held) earlier earlierMember later
        (occurs_iff_mem.mpr member)

/-- A program is laid out exactly when the walk meets its decorators from left to
right. -/
theorem laidOut_iff_ascending {program : List Stmt} :
    LaidOut program ↔ Ascending (bodyDecorators program) := by
  constructor
  · intro laidOut
    induction laidOut with
    | intro statements siblings _ ih =>
        rw [ascending_bodyDecorators_iff]
        refine ⟨?_, siblings⟩
        intro statement member
        exact ascending_decorators_iff.mpr ⟨statements statement member, ih statement member⟩
  · induction program using body_induction with
    | step body ih =>
        intro ascending
        obtain ⟨statements, siblings⟩ := ascending_bodyDecorators_iff.mp ascending
        refine LaidOut.intro ?_ siblings ?_
        · intro statement member
          exact (ascending_decorators_iff.mp (statements statement member)).1
        · intro statement member slot block held
          have inner := (ascending_decorators_iff.mp (statements statement member)).2
          exact ih statement member slot block held (inner slot block held)

instance (program : List Stmt) : Decidable (LaidOut program) :=
  decidable_of_iff _ laidOut_iff_ascending.symm

/-- In a program that is laid out, the places are listed from left to right. -/
theorem LaidOut.pairwise_bodyPlaces {program : List Stmt} (laidOut : LaidOut program) :
    (bodyPlaces program).Pairwise fun first second =>
      ∀ earlier later, decoratorAt? program first = some earlier →
        decoratorAt? program second = some later → earlier.start < later.start := by
  have walked : ((bodyDecorators program).map some).Pairwise fun first second =>
      ∀ earlier later : Expr, first = some earlier → second = some later →
        earlier.start < later.start := by
    rw [List.pairwise_map]
    apply (laidOut_iff_ascending.mp laidOut).imp
    rintro earlier later less _ _ ⟨⟩ ⟨⟩
    exact less
  rw [← map_decoratorAt?_bodyPlaces, List.pairwise_map] at walked
  exact walked

end Source

/-! ## The order of violations -/

open Source (Stmt Expr decoratorAt? LaidOut)

/-- A sighting comes before another: it starts further left, or it is about the same
decorator and found by an earlier rule. -/
def Sighting.Before (first second : Sighting) : Prop :=
  first.violation.offset < second.violation.offset ∨
    first.violation.offset = second.violation.offset ∧ first.place = second.place ∧
      first.rule < second.rule

/-- The violations are those that are reported, in the order of the text and, at one
decorator, of the rules; so no line comes after a later one. -/
def InSourceOrder (reported : Sighting → Prop) (violations : List Violation) : Prop :=
  ∃ found : List Sighting,
    found.map Sighting.violation = violations ∧
      (∀ sighting, sighting ∈ found ↔ reported sighting) ∧
        found.Pairwise Sighting.Before ∧
          violations.Pairwise fun first second => first.line ≤ second.line

section

variable {path : String} {source : List Char} {rules : List Rule} {suppression : Suppression}
  {program : List Stmt}

/-- A violation stands where the decorator starts that it is about. -/
theorem Sighting.Reported.start {sighting : Sighting}
    (reported : sighting.Reported path source rules suppression program) :
    ∃ decorator, decoratorAt? program sighting.place = some decorator ∧
      sighting.violation.offset = decorator.start ∧
        sighting.violation.line = Text.lineOfOffset source sighting.violation.offset := by
  obtain ⟨decorator, use, rule, occurs, lowers, _, found, _⟩ := reported
  obtain ⟨_, start⟩ := Use.of_ofDecorator?_eq_some lowers
  obtain ⟨_, offset, line⟩ := Rule.of_violation?_eq_some found
  refine ⟨decorator, occurs, offset.trans start, ?_⟩
  rw [line, offset]

theorem pairwise_before_sightings (laidOut : LaidOut program) :
    (sightings path source rules suppression program).Pairwise Sighting.Before := by
  apply (pairwise_sightings laidOut.pairwise_bodyPlaces).imp_of_mem
  intro first second firstMember secondMember ordered
  obtain ⟨earlier, earlierOccurs, firstStart, _⟩ := (mem_sightings_iff.mp firstMember).start
  obtain ⟨later, laterOccurs, secondStart, _⟩ := (mem_sightings_iff.mp secondMember).start
  rcases ordered with left | ⟨samePlace, less⟩
  · left
    rw [firstStart, secondStart]
    exact left earlier later earlierOccurs laterOccurs
  · right
    refine ⟨?_, samePlace, less⟩
    rw [samePlace, laterOccurs] at earlierOccurs
    rw [firstStart, secondStart, Option.some.inj earlierOccurs]

/-- Violations that come one after the other are on lines that do not decrease. -/
theorem pairwise_line_of_before {found : List Sighting}
    (reported : ∀ sighting ∈ found, sighting.Reported path source rules suppression program)
    (ordered : found.Pairwise Sighting.Before) :
    (found.map Sighting.violation).Pairwise fun first second => first.line ≤ second.line := by
  rw [List.pairwise_map]
  apply ordered.imp_of_mem
  intro first second firstMember secondMember before
  obtain ⟨_, _, _, firstLine⟩ := (reported first firstMember).start
  obtain ⟨_, _, _, secondLine⟩ := (reported second secondMember).start
  have offset_le : first.violation.offset ≤ second.violation.offset := by
    rcases before with less | ⟨same, _⟩
    · exact less.le
    · exact same.le
  rw [firstLine, secondLine]
  exact Text.lineOfOffset_mono source offset_le

theorem inSourceOrder_programViolations (laidOut : LaidOut program) :
    InSourceOrder (Sighting.Reported path source rules suppression program)
      (programViolations path source rules suppression program) := by
  have ordered : (sightings path source rules suppression program).Pairwise Sighting.Before :=
    pairwise_before_sightings laidOut
  refine ⟨_, map_violation_sightings path source rules suppression program,
    fun _ => mem_sightings_iff, ordered, ?_⟩
  rw [← map_violation_sightings]
  exact pairwise_line_of_before (fun _ => mem_sightings_iff.mp) ordered

/-- A text that takes itself out has nothing reported, and that is in order. -/
theorem inSourceOrder_nil (skips : suppression.skipsFile = true) :
    InSourceOrder (Sighting.Reported path source rules suppression program) [] := by
  refine ⟨[], rfl, ?_, List.Pairwise.nil, List.Pairwise.nil⟩
  intro sighting
  constructor
  · intro member
    contradiction
  · rintro ⟨_, _, _, _, _, _, _, heard⟩
    simp [Suppression.suppresses, skips] at heard

end

/-- Whatever the rules, the violations in a program that is laid out come sorted by
offset and by the position of the rule, strictly: lines do not decrease, and what
stands at one offset is about one decorator, in the order of the rules. -/
theorem inSourceOrder_lintSource (path source : String) (rules : List Rule)
    (program : List Stmt) (laidOut : LaidOut program) :
    let suppression := Suppression.ofSource source.toList
    let reported := Sighting.Reported path source.toList rules suppression program
    InSourceOrder reported (programViolations path source.toList rules suppression program) ∧
      (Source.parse? source.toList = some program →
        InSourceOrder reported (lintSource path source rules).violations) := by
  intro suppression reported
  have ordered : InSourceOrder reported
      (programViolations path source.toList rules suppression program) :=
    inSourceOrder_programViolations laidOut
  refine ⟨ordered, ?_⟩
  intro parsed
  cases skips : (Suppression.ofSource source.toList).skipsFile with
  | true =>
      rw [violations_lintSource_of_skipsFile path rules skips]
      exact inSourceOrder_nil skips
  | false =>
      rw [violations_lintSource_of_parse? path rules skips parsed]
      exact ordered

/-- A class with decorators in the body and in the handler of a `try`, and two rules
about them. -/
theorem inSourceOrder_lintSource_in_handler :
    let source := "@tag\nclass A:\n try:\n  @tag\n  def b(): x\n except E:\n  @tag\n  def c(): x\n"
    let rules := [Rule.ofSpec { target := some "tag", parameters := ["x"], id := some "T2" },
      Rule.ofSpec { target := some "tag", parameters := ["y"], id := some "T1" }]
    let run := lintSource "run.py" source rules
    ∃ program, Source.parse? source.toList = some program ∧ LaidOut program ∧
      InSourceOrder (Sighting.Reported "run.py" source.toList rules
        (Suppression.ofSource source.toList) program) run.violations ∧
      run.violations.map (fun violation => (violation.offset, violation.ruleId)) =
        [(1, "T2"), (1, "T1"), (23, "T2"), (23, "T1"), (54, "T2"), (54, "T1")] := by
  intro source rules run
  have read : (Source.parse? source.toList).any (fun program =>
      decide (LaidOut program) &&
        decide ((programViolations "run.py" source.toList rules
            (Suppression.ofSource source.toList) program).map
          (fun violation => (violation.offset, violation.ruleId)) =
            [(1, "T2"), (1, "T1"), (23, "T2"), (23, "T1"), (54, "T2"), (54, "T1")])) = true := by
    decide +kernel
  obtain ⟨program, parsed, checked⟩ := (Option.any_eq_true _ _).mp read
  rw [Bool.and_eq_true, decide_eq_true_eq, decide_eq_true_eq] at checked
  obtain ⟨laidOut, found⟩ := checked
  have ordered := inSourceOrder_lintSource "run.py" source rules program laidOut
  refine ⟨program, parsed, laidOut, ordered.2 parsed, ?_⟩
  have skips : (Suppression.ofSource source.toList).skipsFile = false := by
    decide +kernel
  rw [violations_lintSource_of_parse? "run.py" rules skips parsed]
  exact found

end DecoratorLint
