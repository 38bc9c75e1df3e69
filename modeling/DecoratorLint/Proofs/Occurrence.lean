import DecoratorLint.Source.Stmt
import Mathlib.Data.List.Nodup

/-!
# Occurrences of decorators

A decorator occurs at a place: in a definition of a statement list, or at a place
of a list that a statement of it holds.  Places are addresses.  They are looked up
name by name and index by index, without any walk through the program.

The walk that collects decorators is compared with this view.  It meets the
decorator of every place, each place once, and nothing else.
-/

namespace DecoratorLint.Source

/-! ## The statement lists of a statement -/

/-- The name of a statement list inside a statement. -/
inductive Slot where
  | body
  | handler (index : Nat)
  | orelse
  | finalbody
  | matchCase (index : Nat)
deriving Repr, DecidableEq

namespace Slot

/-- The place of a list among those of one statement, up to its index. -/
def rank : Slot → Nat
  | .body => 0
  | .handler _ => 1
  | .orelse => 2
  | .finalbody => 3
  | .matchCase _ => 4

/-- The index of a list among those of the same kind. -/
def index : Slot → Nat
  | .handler index => index
  | .matchCase index => index
  | _ => 0

/-- In the text of one statement, the first list stands before the second. -/
def Before (first second : Slot) : Prop :=
  first.rank < second.rank ∨ first.rank = second.rank ∧ first.index < second.index

theorem Before.ne {first second : Slot} (before : first.Before second) : first ≠ second := by
  rintro rfl
  rcases before with less | ⟨_, less⟩
  · exact Nat.lt_irrefl _ less
  · exact Nat.lt_irrefl _ less

theorem Before.asymm {first second : Slot} (before : first.Before second) :
    ¬second.Before first := by
  unfold Before at *
  omega

end Slot

theorem pairwise_lt_zipIdx {α : Type} (items : List α) :
    items.zipIdx.Pairwise fun first second => first.2 < second.2 := by
  have indices : (items.zipIdx.map Prod.snd).Pairwise (· < ·) := by
    rw [List.zipIdx_map_snd]
    exact List.pairwise_lt_range'
  exact List.pairwise_map.mp indices

theorem flatMap_fst_zipIdx {α β : Type} (items : List α) (view : α → List β) :
    items.zipIdx.flatMap (fun entry => view entry.1) = items.flatMap view := by
  calc
    items.zipIdx.flatMap (fun entry => view entry.1) =
        (items.zipIdx.map Prod.fst).flatMap view := by rw [List.flatMap_map]
    _ = items.flatMap view := by rw [List.zipIdx_map_fst]

namespace Stmt

/-- The statement list that a statement holds under a name. -/
def block? : Stmt → Slot → Option (List Stmt)
  | .definition _ _ _ body, .body => some body
  | .ifElse body _, .body => some body
  | .ifElse _ orelse, .orelse => some orelse
  | .whileElse body _, .body => some body
  | .whileElse _ orelse, .orelse => some orelse
  | .forElse _ body _, .body => some body
  | .forElse _ _ orelse, .orelse => some orelse
  | .withBlock _ body, .body => some body
  | .tryBlock _ body _ _ _, .body => some body
  | .tryBlock _ _ handlers _ _, .handler index => handlers[index]?
  | .tryBlock _ _ _ orelse _, .orelse => some orelse
  | .tryBlock _ _ _ _ finalbody, .finalbody => some finalbody
  | .matchBlock cases, .matchCase index => cases[index]?
  | _, _ => none

/-- The decorators that a statement carries itself. -/
def ownDecorators : Stmt → List Expr
  | .definition _ _ own _ => own
  | _ => []

/-- Statement lists of one kind, with their names. -/
def numbered (slot : Nat → Slot) (bodies : List (List Stmt)) : List (Slot × List Stmt) :=
  bodies.zipIdx.map fun entry => (slot entry.2, entry.1)

/-- The statement lists that a statement holds, in the order of the text. -/
def blocks : Stmt → List (Slot × List Stmt)
  | .simple => []
  | .definition _ _ _ body => [(.body, body)]
  | .ifElse body orelse => [(.body, body), (.orelse, orelse)]
  | .whileElse body orelse => [(.body, body), (.orelse, orelse)]
  | .forElse _ body orelse => [(.body, body), (.orelse, orelse)]
  | .withBlock _ body => [(.body, body)]
  | .tryBlock _ body handlers orelse finalbody =>
      (.body, body) :: numbered .handler handlers ++ [(.orelse, orelse), (.finalbody, finalbody)]
  | .matchBlock cases => numbered .matchCase cases

theorem mem_numbered_iff {slot : Nat → Slot} {bodies : List (List Stmt)} {name : Slot}
    {body : List Stmt} :
    (name, body) ∈ numbered slot bodies ↔
      ∃ index, name = slot index ∧ bodies[index]? = some body := by
  simp only [numbered, List.mem_map, Prod.exists, Prod.mk.injEq, List.mem_zipIdx_iff_getElem?]
  constructor
  · rintro ⟨found, index, present, rfl, rfl⟩
    exact ⟨index, rfl, present⟩
  · rintro ⟨index, rfl, present⟩
    exact ⟨body, index, present, rfl, rfl⟩

theorem flatMap_numbered {α : Type} (slot : Nat → Slot) (bodies : List (List Stmt))
    (view : List Stmt → List α) :
    (numbered slot bodies).flatMap (fun entry => view entry.2) = bodies.flatMap view := by
  rw [numbered, List.flatMap_map]
  exact flatMap_fst_zipIdx bodies view

/-- Listing the statement lists and looking one up by its name agree. -/
theorem mem_blocks_iff {statement : Stmt} {slot : Slot} {block : List Stmt} :
    (slot, block) ∈ statement.blocks ↔ statement.block? slot = some block := by
  cases statement <;> cases slot <;>
    simp [blocks, block?, mem_numbered_iff, eq_comm]

theorem pairwise_before_numbered (slot : Nat → Slot)
    (increasing : ∀ first second, first < second → (slot first).Before (slot second))
    (bodies : List (List Stmt)) :
    (numbered slot bodies).Pairwise fun first second => first.1.Before second.1 := by
  rw [numbered, List.pairwise_map]
  exact (pairwise_lt_zipIdx bodies).imp (increasing _ _)

/-- The statement lists come in the order of their names. -/
theorem pairwise_before_blocks (statement : Stmt) :
    statement.blocks.Pairwise fun first second => first.1.Before second.1 := by
  cases statement with
  | tryBlock isGroup body handlers orelse finalbody =>
      have ordered := pairwise_before_numbered .handler
        (fun _ _ less => .inr ⟨rfl, less⟩) handlers
      have named : ∀ entry ∈ numbered .handler handlers, ∃ index, entry.1 = .handler index := by
        rintro ⟨name, block⟩ member
        obtain ⟨index, name_eq, _⟩ := mem_numbered_iff.mp member
        exact ⟨index, name_eq⟩
      rw [blocks, List.cons_append, List.pairwise_cons, List.pairwise_append]
      refine ⟨?_, ordered, ?_, ?_⟩
      · intro entry member
        rcases List.mem_append.mp member with member | member
        · obtain ⟨index, name_eq⟩ := named entry member
          simp [name_eq, Slot.Before, Slot.rank]
        · simp at member
          rcases member with rfl | rfl <;> simp [Slot.Before, Slot.rank]
      · simp [Slot.Before, Slot.rank]
      · intro entry member later laterMember
        obtain ⟨index, name_eq⟩ := named entry member
        simp at laterMember
        rcases laterMember with rfl | rfl <;> simp [name_eq, Slot.Before, Slot.rank]
  | matchBlock cases =>
      exact pairwise_before_numbered .matchCase (fun _ _ less => .inr ⟨rfl, less⟩) cases
  | _ => simp [blocks, Slot.Before, Slot.rank]

/-- What a statement contributes to the walk: its own decorators, then those of
the statement lists it holds. -/
theorem decorators_eq (statement : Stmt) :
    statement.decorators =
      statement.ownDecorators ++ statement.blocks.flatMap fun entry => bodyDecorators entry.2 := by
  cases statement <;>
    simp [decorators, ownDecorators, blocks, flatMap_numbered, bodiesDecorators_eq_flatMap]

/-- A statement list is smaller than the statement that holds it. -/
theorem sizeOf_lt_of_block? {statement : Stmt} {slot : Slot} {block : List Stmt}
    (held : statement.block? slot = some block) : sizeOf block < sizeOf statement := by
  have listed : ∀ {bodies : List (List Stmt)} {index : Nat},
      bodies[index]? = some block → sizeOf block < sizeOf bodies :=
    fun present => List.sizeOf_lt_of_mem (List.mem_of_getElem? present)
  cases statement <;> cases slot <;>
    simp only [block?, Option.some.injEq, reduceCtorEq] at held
  case tryBlock.handler =>
    have smaller := listed held
    simp only [Stmt.tryBlock.sizeOf_spec]
    omega
  case matchBlock.matchCase =>
    have smaller := listed held
    simp only [Stmt.matchBlock.sizeOf_spec]
    omega
  all_goals
    subst held
    simp only [Stmt.definition.sizeOf_spec, Stmt.ifElse.sizeOf_spec, Stmt.whileElse.sizeOf_spec,
      Stmt.forElse.sizeOf_spec, Stmt.withBlock.sizeOf_spec, Stmt.tryBlock.sizeOf_spec]
    omega

end Stmt

/-- What holds of a statement list as soon as it holds of the lists that its
statements hold, holds of every statement list. -/
theorem body_induction {motive : List Stmt → Prop}
    (step : ∀ body : List Stmt,
      (∀ statement ∈ body, ∀ slot block, statement.block? slot = some block → motive block) →
      motive body)
    (body : List Stmt) : motive body := by
  induction size : sizeOf body using Nat.strongRecOn generalizing body with
  | ind bound ih =>
      apply step
      intro statement member slot block held
      have inner := Stmt.sizeOf_lt_of_block? held
      have outer := List.sizeOf_lt_of_mem member
      exact ih (sizeOf block) (by omega) block rfl

/-! ## Places -/

/-- The address of a decorator in a statement list: a decorator of one of its
statements, or an address in a list that one of its statements holds. -/
inductive Place where
  | own (statement decorator : Nat)
  | inner (statement : Nat) (slot : Slot) (place : Place)
deriving Repr, DecidableEq

/-- The decorator at a place. -/
def decoratorAt? : List Stmt → Place → Option Expr
  | body, .own statement decorator => do
      let holder ← body[statement]?
      holder.ownDecorators[decorator]?
  | body, .inner statement slot place => do
      let holder ← body[statement]?
      let block ← holder.block? slot
      decoratorAt? block place

theorem decoratorAt?_own_eq_some_iff {body : List Stmt} {statement decorator : Nat}
    {found : Expr} :
    decoratorAt? body (.own statement decorator) = some found ↔
      ∃ holder, body[statement]? = some holder ∧ holder.ownDecorators[decorator]? = some found := by
  simp only [decoratorAt?]
  exact Option.bind_eq_some_iff

theorem decoratorAt?_inner_eq_some_iff {body : List Stmt} {statement : Nat} {slot : Slot}
    {place : Place} {found : Expr} :
    decoratorAt? body (.inner statement slot place) = some found ↔
      ∃ holder, body[statement]? = some holder ∧
        ∃ block, holder.block? slot = some block ∧ decoratorAt? block place = some found := by
  simp only [decoratorAt?, Option.bind_eq_bind, Option.bind_eq_some_iff]

theorem flatMap_attach {α β : Type} (items : List α) (view : α → List β) :
    (items.attach.flatMap fun item => view item.val) = items.flatMap view := by
  rw [List.flatMap_subtype fun _ _ => rfl, List.unattach_attach]

/-- All places of a statement list that hold a decorator, in the order of the
walk. -/
def bodyPlaces (body : List Stmt) : List Place :=
  body.zipIdx.attach.flatMap fun entry =>
    (List.range entry.val.1.ownDecorators.length).map (.own entry.val.2) ++
      entry.val.1.blocks.attach.flatMap fun held =>
        (bodyPlaces held.val.2).map (.inner entry.val.2 held.val.1)
termination_by sizeOf body
decreasing_by
  have inner : sizeOf held.val.2 < sizeOf entry.val.1 :=
    Stmt.sizeOf_lt_of_block? (Stmt.mem_blocks_iff.mp held.property)
  have outer := List.sizeOf_lt_of_mem (List.fst_mem_of_mem_zipIdx entry.property)
  omega

/-- The places in the statement with the given index. -/
def stmtPlaces (statement : Stmt) (index : Nat) : List Place :=
  (List.range statement.ownDecorators.length).map (.own index) ++
    statement.blocks.flatMap fun held => (bodyPlaces held.2).map (.inner index held.1)

theorem bodyPlaces_eq (body : List Stmt) :
    bodyPlaces body = body.zipIdx.flatMap fun entry => stmtPlaces entry.1 entry.2 := by
  rw [bodyPlaces, ← flatMap_attach body.zipIdx]
  congr 1
  funext entry
  rw [stmtPlaces, ← flatMap_attach entry.val.1.blocks]

/-- The places that are listed are those that hold a decorator. -/
theorem mem_bodyPlaces_iff {body : List Stmt} {place : Place} :
    place ∈ bodyPlaces body ↔ ∃ decorator, decoratorAt? body place = some decorator := by
  induction place generalizing body with
  | own statement decorator =>
      rw [bodyPlaces_eq]
      simp only [List.mem_flatMap, stmtPlaces, List.mem_append, List.mem_map, List.mem_range,
        Place.own.injEq, reduceCtorEq, and_false, exists_false, or_false,
        decoratorAt?_own_eq_some_iff]
      constructor
      · rintro ⟨⟨holder, index⟩, listed, position, less, rfl, rfl⟩
        exact ⟨_, holder, List.mem_zipIdx_iff_getElem?.mp listed, List.getElem?_eq_getElem less⟩
      · rintro ⟨found, holder, present, own⟩
        obtain ⟨less, _⟩ := List.getElem?_eq_some_iff.mp own
        exact ⟨(holder, statement), List.mem_zipIdx_iff_getElem?.mpr present, decorator, less,
          rfl, rfl⟩
  | inner statement slot place ih =>
      rw [bodyPlaces_eq]
      simp only [List.mem_flatMap, stmtPlaces, List.mem_append, List.mem_map, reduceCtorEq,
        and_false, exists_false, false_or, Place.inner.injEq, decoratorAt?_inner_eq_some_iff]
      constructor
      · rintro ⟨⟨holder, index⟩, listed, ⟨name, block⟩, held, inside, member, rfl, rfl, rfl⟩
        obtain ⟨decorator, found⟩ := ih.mp member
        exact ⟨decorator, holder, List.mem_zipIdx_iff_getElem?.mp listed, block,
          Stmt.mem_blocks_iff.mp held, found⟩
      · rintro ⟨decorator, holder, present, block, held, found⟩
        exact ⟨(holder, statement), List.mem_zipIdx_iff_getElem?.mpr present, (slot, block),
          Stmt.mem_blocks_iff.mpr held, place, ih.mpr ⟨decorator, found⟩, rfl, rfl, rfl⟩

/-- The index of the statement in which a place lies. -/
def Place.statement : Place → Nat
  | .own statement _ => statement
  | .inner statement _ _ => statement

theorem statement_eq_of_mem_stmtPlaces {statement : Stmt} {index : Nat} {place : Place}
    (member : place ∈ stmtPlaces statement index) : place.statement = index := by
  rw [stmtPlaces, List.mem_append, List.mem_map, List.mem_flatMap] at member
  rcases member with ⟨decorator, _, rfl⟩ | ⟨held, _, inside⟩
  · rfl
  · obtain ⟨inner, _, rfl⟩ := List.mem_map.mp inside
    rfl

theorem nodup_stmtPlaces {statement : Stmt}
    (inner : ∀ held ∈ statement.blocks, (bodyPlaces held.2).Nodup) (index : Nat) :
    (stmtPlaces statement index).Nodup := by
  rw [stmtPlaces, List.nodup_append, List.nodup_flatMap]
  refine ⟨List.nodup_range.map ?_, ⟨?_, ?_⟩, ?_⟩
  · intro first second same
    exact (Place.own.inj same).2
  · intro held member
    apply (inner held member).map
    intro first second same
    exact (Place.inner.inj same).2.2
  · apply (Stmt.pairwise_before_blocks statement).imp
    intro first second before place firstMember secondMember
    obtain ⟨_, _, rfl⟩ := List.mem_map.mp firstMember
    obtain ⟨_, _, same⟩ := List.mem_map.mp secondMember
    exact before.ne (Place.inner.inj same).2.1.symm
  · intro own ownMember other otherMember
    obtain ⟨_, _, rfl⟩ := List.mem_map.mp ownMember
    obtain ⟨_, _, inside⟩ := List.mem_flatMap.mp otherMember
    obtain ⟨_, _, rfl⟩ := List.mem_map.mp inside
    exact Place.noConfusion

/-- No place is listed twice. -/
theorem nodup_bodyPlaces (body : List Stmt) : (bodyPlaces body).Nodup := by
  induction body using body_induction with
  | step body ih =>
      rw [bodyPlaces_eq, List.nodup_flatMap]
      constructor
      · rintro ⟨statement, index⟩ listed
        apply nodup_stmtPlaces
        rintro ⟨slot, block⟩ held
        exact ih statement (List.fst_mem_of_mem_zipIdx listed) slot block
          (Stmt.mem_blocks_iff.mp held)
      · apply (pairwise_lt_zipIdx body).imp
        intro first second less place firstMember secondMember
        have firstIndex := statement_eq_of_mem_stmtPlaces firstMember
        have secondIndex := statement_eq_of_mem_stmtPlaces secondMember
        exact Nat.ne_of_lt less (firstIndex.symm.trans secondIndex)

theorem map_decoratorAt?_stmtPlaces {body : List Stmt} {statement : Stmt} {index : Nat}
    (present : body[index]? = some statement)
    (inner : ∀ held ∈ statement.blocks,
      (bodyPlaces held.2).map (decoratorAt? held.2) = (bodyDecorators held.2).map some) :
    (stmtPlaces statement index).map (decoratorAt? body) = statement.decorators.map some := by
  rw [stmtPlaces, Stmt.decorators_eq, List.map_append, List.map_append, List.map_flatMap,
    List.map_flatMap, List.map_map]
  congr 1
  · apply List.ext_getElem
    · simp
    · intro position _ _
      simp [decoratorAt?, present]
  · apply List.flatMap_congr
    rintro ⟨slot, block⟩ held
    rw [← inner _ held, List.map_map]
    apply List.map_congr_left
    intro place _
    simp [decoratorAt?, present, Stmt.mem_blocks_iff.mp held]

/-- The walk meets the decorators of the listed places, one after the other. -/
theorem map_decoratorAt?_bodyPlaces (body : List Stmt) :
    (bodyPlaces body).map (decoratorAt? body) = (bodyDecorators body).map some := by
  induction body using body_induction with
  | step body ih =>
      rw [bodyPlaces_eq, bodyDecorators_eq_flatMap, List.map_flatMap, List.map_flatMap]
      calc
        body.zipIdx.flatMap (fun entry => (stmtPlaces entry.1 entry.2).map (decoratorAt? body)) =
            body.zipIdx.flatMap (fun entry => entry.1.decorators.map some) := by
          apply List.flatMap_congr
          rintro ⟨statement, index⟩ listed
          apply map_decoratorAt?_stmtPlaces (List.mem_zipIdx_iff_getElem?.mp listed)
          rintro ⟨slot, block⟩ held
          exact ih statement (List.fst_mem_of_mem_zipIdx listed) slot block
            (Stmt.mem_blocks_iff.mp held)
        _ = body.flatMap (fun statement => statement.decorators.map some) :=
          flatMap_fst_zipIdx body fun statement => statement.decorators.map some

/-- The walk meets a decorator exactly when it stands at some place. -/
theorem mem_bodyDecorators_iff {body : List Stmt} {decorator : Expr} :
    decorator ∈ bodyDecorators body ↔ ∃ place, decoratorAt? body place = some decorator := by
  have walked : some decorator ∈ (bodyDecorators body).map some ↔
      ∃ place ∈ bodyPlaces body, decoratorAt? body place = some decorator := by
    rw [← map_decoratorAt?_bodyPlaces, List.mem_map]
  constructor
  · intro member
    obtain ⟨place, _, found⟩ := walked.mp (List.mem_map_of_mem member)
    exact ⟨place, found⟩
  · rintro ⟨place, found⟩
    have listed := mem_bodyPlaces_iff.mpr ⟨decorator, found⟩
    simpa using walked.mpr ⟨place, listed, found⟩

end DecoratorLint.Source
