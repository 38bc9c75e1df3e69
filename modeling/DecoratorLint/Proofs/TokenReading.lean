import DecoratorLint.Proofs.TokenStart
import DecoratorLint.Source.Grammar.Basic
import Mathlib

/-!
# What parsers keep

A parser reads tokens from the front of a list, so what holds of the starts of all tokens
before it runs still holds of the tokens that it leaves.  This is stated as a triple for
every primitive parser and every way to repeat one.  Parsers that only look say exactly what
they see; a failing parser promises nothing.
-/

namespace DecoratorLint.Source.Grammar

open Std.Do
open SoftKeyword (startsLine)

set_option mvcgen.warning false

/-! ## Triples about parsers -/

/-- Assertions about parsers see the bound and the tokens that are left. -/
abbrev ParserShape : PostShape :=
  .arg Nat (.arg (List Lexeme) (.except PUnit .pure))

section Triples

variable {α : Type} {pre : List Lexeme → Prop} {post : α → List Lexeme → Prop}

/-- A triple about a parser speaks of all of its runs that give a result. -/
theorem triple_iff {parser : Parser α} :
    ⦃fun _ tokens => ⌜pre tokens⌝⦄ parser ⦃⇓? result => fun _ left => ⌜post result left⌝⦄ ↔
      ∀ bound tokens, pre tokens → ∀ result left,
        (parser.run bound).run tokens = some (result, left) → post result left := by
  have outcome_iff : ∀ {found : Option (α × List Lexeme)},
      (wp⟦found⟧ (⇓? (result, left) => ⌜post result left⌝)).down ↔
        ∀ result left, found = some (result, left) → post result left := by
    intro found
    cases found with
    | none => exact iff_of_true trivial fun _ _ absent => nomatch absent
    | some pair =>
        constructor
        · rintro given result left ⟨⟩
          exact given
        · intro given
          exact given pair.1 pair.2 rfl
  constructor
  · intro triple bound tokens given
    exact outcome_iff.mp (triple bound tokens given)
  · intro outcome bound tokens given
    exact outcome_iff.mpr (outcome bound tokens given)

@[spec]
theorem failure_spec {before : Assertion ParserShape} {after : α → Assertion ParserShape} :
    ⦃before⦄ (failure : Parser α) ⦃PostCond.mayThrow after⦄ := by
  intro bound tokens _
  trivial

/-- An alternative starts from the same tokens as the parser before it. -/
theorem orElse_spec {first second : Parser α}
    (onFirst : ⦃fun _ tokens => ⌜pre tokens⌝⦄ first
      ⦃⇓? result => fun _ left => ⌜post result left⌝⦄)
    (onSecond : ⦃fun _ tokens => ⌜pre tokens⌝⦄ second
      ⦃⇓? result => fun _ left => ⌜post result left⌝⦄) :
    ⦃fun _ tokens => ⌜pre tokens⌝⦄ (first <|> second)
    ⦃⇓? result => fun _ left => ⌜post result left⌝⦄ := by
  rw [triple_iff] at onFirst onSecond ⊢
  intro bound tokens given result left ran
  change ((first.run bound).run tokens <|> (second.run bound).run tokens) = _ at ran
  cases found : (first.run bound).run tokens with
  | none =>
      rw [found] at ran
      exact onSecond bound tokens given result left ran
  | some pair =>
      rw [found] at ran
      exact onFirst bound tokens given result left (found.trans ran)

end Triples

/-! ## Looking at tokens -/

/-- The byte offset at which the first of some tokens starts. -/
def startOf (tokens : List Lexeme) : Nat :=
  match tokens.head? with
  | some lexeme => lexeme.start
  | none => 0

/-- Where a token other than a mark of the layout comes first, the property holds of its
start. -/
theorem holds_startOf {holds : Nat → Prop} {tokens : List Lexeme} {token : Token}
    (start : TokensStart holds tokens) (seen : tokens.head?.map Lexeme.token = some token)
    (content : startsLine token = false) : holds (startOf tokens) := by
  cases tokens with
  | nil => contradiction
  | cons first rest =>
      obtain rfl := Option.some.inj seen
      exact start first List.mem_cons_self content

@[spec]
theorem peek_spec {post : PostCond (Option Token) ParserShape} :
    ⦃fun bound tokens => post.1 (tokens.head?.map Lexeme.token) bound tokens⦄ peek ⦃post⦄ := by
  mvcgen [peek]

@[spec]
theorem peekSecond_spec {post : PostCond (Option Token) ParserShape} :
    ⦃fun bound tokens => post.1 ((tokens.drop 1).head?.map Lexeme.token) bound tokens⦄
    peekSecond ⦃post⦄ := by
  mvcgen [peekSecond]

@[spec]
theorem position_spec {post : PostCond Nat ParserShape} :
    ⦃fun bound tokens => post.1 (startOf tokens) bound tokens⦄ position ⦃post⦄ := by
  mvcgen [position]

@[spec]
theorem sees_spec {token : Token} {post : PostCond Bool ParserShape} :
    ⦃fun bound tokens => post.1 (tokens.head?.map Lexeme.token = some token) bound tokens⦄
    sees token ⦃post⦄ := by
  mvcgen [sees]

/-! ## Reading tokens -/

/-- Reading keeps what holds of the starts of tokens, and gives a result with a
property. -/
abbrev Reads {α : Type} (holds : Nat → Prop) (parser : Parser α) (gives : α → Prop) : Prop :=
  ⦃fun _ tokens => ⌜TokensStart holds tokens⌝⦄ parser
  ⦃⇓? result => fun _ left => ⌜TokensStart holds left ∧ gives result⌝⦄

/-- Reading keeps what holds of the starts of tokens. -/
abbrev Keeps {α : Type} (holds : Nat → Prop) (parser : Parser α) : Prop :=
  ⦃fun _ tokens => ⌜TokensStart holds tokens⌝⦄ parser
  ⦃⇓? _ => fun _ left => ⌜TokensStart holds left⌝⦄

variable {holds : Nat → Prop} {α : Type}

theorem Reads.keeps {parser : Parser α} {gives : α → Prop} (reads : Reads holds parser gives) :
    Keeps holds parser := by
  mvcgen [reads]
  exact fun start _ => start

@[spec]
theorem next_keeps : Keeps holds next := by
  mvcgen [next]
  rename_i start first rest shape
  rw [shape] at start
  exact (tokensStart_cons.mp start).2

@[spec]
theorem accept_keeps (token : Token) : Keeps holds (accept token) := by
  mvcgen [accept]

@[spec]
theorem expect_keeps (token : Token) : Keeps holds (expect token) := by
  mvcgen [expect]

@[spec]
theorem symbol_keeps (text : String) : Keeps holds (symbol text) := by
  mvcgen [symbol]

@[spec]
theorem keyword_keeps (word : String) : Keeps holds (keyword word) := by
  mvcgen [keyword]

@[spec]
theorem acceptSymbol_keeps (text : String) : Keeps holds (acceptSymbol text) := by
  mvcgen [acceptSymbol]

@[spec]
theorem acceptKeyword_keeps (word : String) : Keeps holds (acceptKeyword word) := by
  mvcgen [acceptKeyword]

@[spec]
theorem name_keeps : Keeps holds name := by
  mvcgen [name]

@[spec]
theorem require_keeps (condition : Bool) : Keeps holds (require condition) := by
  mvcgen [require]

@[spec]
theorem optionally_keeps {parser : Parser α} (keeps : Keeps holds parser) (condition : Bool) :
    Keeps holds (optionally condition parser) := by
  mvcgen [optionally, keeps]

/-! ## Repeating parsers

The counters of the repetitions only stop them, so each of these is an induction on the
counter. -/

theorem collectUpTo_reads {step : Parser (Option α)} {gives : α → Prop}
    (reads : Reads holds step fun result => ∀ value ∈ result, gives value) (fuel : Nat) :
    Reads holds (collectUpTo step fuel) fun results => ∀ value ∈ results, gives value := by
  induction fuel with
  | zero => mvcgen [collectUpTo]
  | succ fuel ih =>
      mvcgen [collectUpTo, reads, ih]
      all_goals simp_all

theorem collect_reads {gives : α → Prop} {step : Parser (Option α)}
    (reads : Reads holds step fun result => ∀ value ∈ result, gives value) :
    Reads holds (collect step) fun results => ∀ value ∈ results, gives value := by
  have counted := collectUpTo_reads reads
  mvcgen [collect, counted]

theorem collectUpTo_keeps {step : Parser (Option α)} (keeps : Keeps holds step) (fuel : Nat) :
    Keeps holds (collectUpTo step fuel) := by
  induction fuel with
  | zero => mvcgen [collectUpTo]
  | succ fuel ih => mvcgen [collectUpTo, keeps, ih]

@[spec]
theorem collect_keeps {step : Parser (Option α)} (keeps : Keeps holds step) :
    Keeps holds (collect step) := by
  have counted := collectUpTo_keeps keeps
  mvcgen [collect, counted]

theorem growUpTo_reads {gives : α → Prop} {step : α → Parser (Option α)}
    (reads : ∀ value, gives value →
      Reads holds (step value) fun result => ∀ larger ∈ result, gives larger)
    (fuel : Nat) {value : α} (given : gives value) :
    Reads holds (growUpTo step fuel value) gives := by
  induction fuel generalizing value with
  | zero => mvcgen [growUpTo]
  | succ fuel ih =>
      have stepped := reads value given
      mvcgen [growUpTo, stepped, ih]
      all_goals simp_all

theorem grow_reads {gives : α → Prop} {step : α → Parser (Option α)}
    (reads : ∀ value, gives value →
      Reads holds (step value) fun result => ∀ larger ∈ result, gives larger)
    {value : α} (given : gives value) : Reads holds (grow step value) gives := by
  have counted := fun fuel => growUpTo_reads reads fuel given
  mvcgen [grow, counted]

theorem commaItemsUpTo_keeps (starts : Token → Bool) {item : Parser α}
    (keeps : Keeps holds item) (fuel : Nat) :
    Keeps holds (commaItemsUpTo starts item fuel) := by
  induction fuel with
  | zero => mvcgen [commaItemsUpTo]
  | succ fuel ih => mvcgen [commaItemsUpTo, keeps, ih]

/-- What an item gives, the first item of a list with commas is. -/
theorem commaList_reads {gives : α → Prop} {starts : Token → Bool} {item : Parser α}
    (reads : Reads holds item gives) :
    Reads holds (commaList starts item) fun result => ∀ first ∈ result.1.head?, gives first := by
  have counted := commaItemsUpTo_keeps starts reads.keeps
  mvcgen [commaList, reads, counted]
  all_goals simp_all

@[spec]
theorem commaList_keeps {starts : Token → Bool} {item : Parser α} (keeps : Keeps holds item) :
    Keeps holds (commaList starts item) := by
  have counted := commaItemsUpTo_keeps starts keeps
  mvcgen [commaList, keeps, counted]

@[spec]
theorem strictCommaList_keeps {item : Parser α} (keeps : Keeps holds item) :
    Keeps holds (strictCommaList item) := by
  mvcgen [strictCommaList, keeps]

end DecoratorLint.Source.Grammar
