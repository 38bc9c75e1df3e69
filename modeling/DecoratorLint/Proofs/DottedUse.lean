import DecoratorLint.Proofs.PathText
import DecoratorLint.Proofs.Sighting

/-!
# Decorators that name something

A decorator is a use exactly when it is a dotted chain, bare or called.  The chain is
described on its own, with its segments from the root on, and so are the arguments of a
call.  What a use says follows from this description alone, and a chain names the same
head as its written path.
-/

namespace DecoratorLint

open Source (Expr)

/-! ## Dotted chains -/

/-- A dotted chain: member accesses, any number of them, on a name.  Its segments are the
names that are written, from left to right. -/
inductive Source.Expr.Chain : Expr → List String → Prop where
  | name (start : Nat) (identifier : String) : Chain (.name start identifier) [identifier]
  | member (start : Nat) {object : Expr} (field : String) {segments : List String}
      (inner : Chain object segments) : Chain (.member start object field) (segments ++ [field])

/-- A decorator names something: it is a dotted chain, or a call of one with these values
and keywords. -/
inductive Source.Expr.Names : Expr → List String → List Expr → List (Option String × Expr) → Prop
    where
  | bare {expr : Expr} {segments : List String} (chain : expr.Chain segments) :
      Names expr segments [] []
  | called (start : Nat) {function : Expr} {segments : List String} (values : List Expr)
      (keywords : List (Option String × Expr)) (chain : function.Chain segments) :
      Names (.call start function values keywords) segments values keywords

namespace Use

theorem segments?_eq_some_iff {expr : Expr} {segments : List String} :
    segments? expr = some segments ↔ expr.Chain segments := by
  constructor
  · intro found
    fun_induction segments? expr generalizing segments with
    | case1 start identifier =>
        cases found
        exact .name start identifier
    | case2 start object field ih =>
        obtain ⟨inner, innerFound, rfl⟩ := Option.map_eq_some_iff.mp found
        exact .member start field (ih innerFound)
    | case3 => contradiction
  · intro chain
    induction chain with
    | name start identifier => rfl
    | member start field inner ih => rw [segments?, ih, Option.map_some]

end Use

theorem Source.Expr.Chain.exists_concat {expr : Expr} {segments : List String}
    (chain : expr.Chain segments) : ∃ qualifier last, segments = qualifier ++ [last] := by
  cases chain with
  | name start identifier => exact ⟨[], identifier, rfl⟩
  | member start field inner => exact ⟨_, field, rfl⟩

theorem Source.Expr.Names.exists_concat {expr : Expr} {segments : List String}
    {values : List Expr} {keywords : List (Option String × Expr)}
    (names : expr.Names segments values keywords) :
    ∃ qualifier last, segments = qualifier ++ [last] := by
  cases names with
  | bare chain => exact chain.exists_concat
  | called start values keywords chain => exact chain.exists_concat

theorem Source.Expr.Names.keywordNames_eq {expr : Expr} {segments : List String}
    {values : List Expr} {keywords : List (Option String × Expr)}
    (names : expr.Names segments values keywords) :
    expr.keywordNames = keywords.filterMap Prod.fst := by
  cases names with
  | bare chain => cases chain <;> rfl
  | called start values keywords chain => rfl

/-! ## Heads -/

namespace Head

/-- The last segment is the simple name, and those before it, if there are any, are its
qualifier. -/
theorem ofSegments?_concat (qualifier : List String) (last : String) :
    ofSegments? (qualifier ++ [last]) =
      some (if qualifier = [] then .simple last else .qualified qualifier last) := by
  rw [ofSegments?, List.dropLast_concat, List.getLast?_concat]
  cases qualifier with
  | nil => rfl
  | cons first rest => rfl

/-- A path of proper segments names the head of these segments. -/
theorem ofPath?_joinWith {segments : List String} (nonempty : segments ≠ [])
    (proper : ∀ segment ∈ segments, segment ≠ "" ∧ '.' ∉ segment.toList) :
    ofPath? (Text.joinWith "." segments) = ofSegments? segments := by
  have split : Text.splitAt '.' (Text.joinWith "." segments) = segments :=
    Text.splitAt_joinWith nonempty fun segment member => (proper segment member).2
  have filled : segments.any String.isEmpty = false := by
    rw [List.any_eq_false]
    intro segment member
    simpa using (proper segment member).1
  simp only [ofPath?, split, filled, Bool.false_eq_true, if_false]

end Head

/-! ## Arguments -/

namespace Argument

/-- What a positional value of a call is as an argument. -/
inductive OfValue : Expr → Argument → Prop where
  | starred (start : Nat) (inner : Expr) : OfValue (.starred start inner) .unpacked
  | plain {value : Expr} (unstarred : ∀ start inner, value ≠ .starred start inner) :
      OfValue value .value

/-- What a keyword of a call is as an argument. -/
inductive OfKeyword : Option String × Expr → Argument → Prop where
  | named (name : String) (value : Expr) : OfKeyword (some name, value) (.pair name)
  | mapping (value : Expr) : OfKeyword (none, value) .unpacked

theorem ofValue_iff {value : Expr} {argument : Argument} :
    OfValue value argument ↔ argument = ofValue value := by
  constructor
  · rintro (⟨start, inner⟩ | unstarred)
    · rfl
    · cases value with
      | starred start inner => exact absurd rfl (unstarred start inner)
      | _ => rfl
  · rintro rfl
    cases value with
    | starred start inner => exact .starred start inner
    | _ => exact .plain fun _ _ same => by cases same

theorem ofKeyword_iff {keyword : Option String × Expr} {argument : Argument} :
    OfKeyword keyword argument ↔ argument = ofKeyword keyword := by
  constructor
  · rintro (⟨name, value⟩ | value) <;> rfl
  · rintro rfl
    rcases keyword with ⟨_ | name, value⟩
    · exact .mapping value
    · exact .named name value

end Argument

/-! ## Uses -/

namespace Use

theorem head?_eq_some_iff {expr : Expr} {head : Head} :
    head? expr = some head ↔
      ∃ segments, expr.Chain segments ∧ Head.ofSegments? segments = some head := by
  simp only [head?, Option.bind_eq_some_iff, segments?_eq_some_iff]

/-- The use that a decorator is, told by what it names. -/
theorem ofDecorator?_eq_some_iff {decorator : Expr} {use : Use} :
    ofDecorator? decorator = some use ↔
      ∃ segments values keywords, decorator.Names segments values keywords ∧
        Head.ofSegments? segments = some use.head ∧
        use.arguments = values.map Argument.ofValue ++ keywords.map Argument.ofKeyword ∧
        use.offset = decorator.start := by
  rcases use with ⟨head, arguments, offset⟩
  cases decorator with
  | call start function values keywords =>
      rw [ofDecorator?, Option.map_eq_some_iff]
      simp only [head?_eq_some_iff]
      constructor
      · rintro ⟨_, ⟨segments, chain, named⟩, ⟨⟩⟩
        exact ⟨segments, values, keywords, .called offset values keywords chain, named, rfl, rfl⟩
      · rintro ⟨segments, _, _, chain | ⟨_, _, _, chain⟩, named, rfl, rfl⟩
        · cases chain
        · exact ⟨head, ⟨segments, chain, named⟩, rfl⟩
  | _ =>
      rw [ofDecorator?, Option.map_eq_some_iff]
      · simp only [head?_eq_some_iff]
        constructor
        · rintro ⟨_, ⟨segments, chain, named⟩, ⟨⟩⟩
          exact ⟨segments, [], [], .bare chain, named, rfl, rfl⟩
        · rintro ⟨segments, _, _, ⟨chain⟩, named, rfl, rfl⟩
          exact ⟨head, ⟨segments, chain, named⟩, rfl⟩
      · intro _ _ _ _ same
        cases same

theorem isSome_ofDecorator?_iff {decorator : Expr} :
    (ofDecorator? decorator).isSome = true ↔
      ∃ segments values keywords, decorator.Names segments values keywords := by
  simp only [Option.isSome_iff_exists, ofDecorator?_eq_some_iff]
  constructor
  · rintro ⟨_, segments, values, keywords, names, _⟩
    exact ⟨segments, values, keywords, names⟩
  · rintro ⟨segments, values, keywords, names⟩
    obtain ⟨qualifier, last, rfl⟩ := names.exists_concat
    exact ⟨⟨_, _, _⟩, _, values, keywords, names, Head.ofSegments?_concat qualifier last, rfl, rfl⟩

/-- A decorator is a use exactly when it is a dotted chain or a call of one.  Then the last
segment is the simple name and those before it are the qualifier, the use stands where the
decorator starts, its arguments are those of the call, values before keywords, and its
parameter names are the names of the keywords.  If every segment is a proper one, the path
of the segments names the same head. -/
theorem ofDecorator?_isSome_iff_chain (decorator : Expr) :
    ((ofDecorator? decorator).isSome = true ↔
      (∃ segments, decorator.Chain segments) ∨
        ∃ start function values keywords segments,
          decorator = .call start function values keywords ∧ function.Chain segments) ∧
    ∀ segments values keywords, decorator.Names segments values keywords →
      ∃ use qualifier last first second,
        ofDecorator? decorator = some use ∧
        segments = qualifier ++ [last] ∧
        use.simpleName = last ∧
        use.head = (if qualifier = [] then .simple last else .qualified qualifier last) ∧
        use.offset = decorator.start ∧
        use.arguments = first ++ second ∧
        List.Forall₂ Argument.OfValue values first ∧
        List.Forall₂ Argument.OfKeyword keywords second ∧
        use.parameterNames = keywords.filterMap Prod.fst ∧
        ((∀ segment ∈ segments, segment ≠ "" ∧ '.' ∉ segment.toList) →
          Head.ofPath? (".".intercalate segments) = some use.head) := by
  constructor
  · rw [isSome_ofDecorator?_iff]
    constructor
    · rintro ⟨segments, values, keywords, names⟩
      cases names with
      | bare chain => exact .inl ⟨segments, chain⟩
      | called start values keywords chain =>
          exact .inr ⟨start, _, values, keywords, segments, rfl, chain⟩
    · rintro (⟨segments, chain⟩ | ⟨start, _, values, keywords, segments, rfl, chain⟩)
      · exact ⟨segments, [], [], .bare chain⟩
      · exact ⟨segments, values, keywords, .called start values keywords chain⟩
  · intro segments values keywords names
    obtain ⟨qualifier, last, rfl⟩ := names.exists_concat
    have head := Head.ofSegments?_concat qualifier last
    let use : Use :=
      { head := if qualifier = [] then .simple last else .qualified qualifier last
        arguments := values.map Argument.ofValue ++ keywords.map Argument.ofKeyword
        offset := decorator.start }
    have lowers : ofDecorator? decorator = some use :=
      ofDecorator?_eq_some_iff.mpr ⟨_, values, keywords, names, head, rfl, rfl⟩
    refine ⟨use, qualifier, last, _, _, lowers, rfl, ?_, rfl, rfl, rfl, ?_, ?_, ?_, ?_⟩
    · simp only [use, simpleName]
      split <;> rfl
    · simp only [List.forall₂_map_right_iff, Argument.ofValue_iff]
      exact List.forall₂_same.mpr fun _ _ => rfl
    · simp only [List.forall₂_map_right_iff, Argument.ofKeyword_iff]
      exact List.forall₂_same.mpr fun _ _ => rfl
    · rw [(of_ofDecorator?_eq_some lowers).1]
      exact names.keywordNames_eq
    · intro proper
      rw [← Text.joinWith_eq_intercalate, Head.ofPath?_joinWith (by simp) proper, head]

/-- A call of a path with three segments, with a starred value between plain ones and an
unpacked mapping between keywords. -/
theorem ofDecorator?_isSome_iff_chain_of_call :
    let function : Expr := .member 7 (.member 7 (.name 7 "pkg") "sub") "Target"
    let values : List Expr := [.name 22 "x", .starred 25 (.name 26 "rest")]
    let keywords : List (Option String × Expr) :=
      [(some "id", .name 35 "y"), (none, .name 40 "more"), (some "at", .name 49 "z")]
    let decorator : Expr := .call 7 function values keywords
    decorator.Names ["pkg", "sub", "Target"] values keywords ∧
      (ofDecorator? decorator).isSome = true ∧
      ∃ use, ofDecorator? decorator = some use ∧
        use.head = .qualified ["pkg", "sub"] "Target" ∧ use.offset = 7 ∧
        use.parameterNames = ["id", "at"] ∧ Head.ofPath? "pkg.sub.Target" = some use.head := by
  intro function values keywords decorator
  have chain : function.Chain ["pkg", "sub", "Target"] :=
    .member 7 "Target" (.member 7 "sub" (.name 7 "pkg"))
  have names : decorator.Names ["pkg", "sub", "Target"] values keywords :=
    .called 7 values keywords chain
  obtain ⟨isUse, told⟩ := ofDecorator?_isSome_iff_chain decorator
  obtain ⟨use, qualifier, last, _, _, lowers, shape, _, head, offset, _, _, _, parameters, path⟩ :=
    told _ values keywords names
  have split : ["pkg", "sub"] ++ ["Target"] = qualifier ++ [last] := shape
  obtain ⟨rfl, ⟨⟩⟩ := List.append_inj' split rfl
  refine ⟨names, isUse.mpr (.inr ⟨7, function, values, keywords, _, rfl, chain⟩), use, lowers, head,
    offset, parameters, ?_⟩
  exact path (by decide)

end Use

end DecoratorLint
