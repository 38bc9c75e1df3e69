import DecoratorLint.Proofs.LineSpan
import DecoratorLint.Source.SoftKeyword

/-!
# Where tokens start

Reading a token leaves an end of the text that was read, so that every character which is
read stands where the source text has it.  No token starts with a blank: the classes of
characters with which words, numbers, strings and symbols start hold none.

Together these say that every token of a program, other than the marks of its layout,
starts at a character of the source text that can be seen.
-/

namespace DecoratorLint.Source

open SoftKeyword (startsLine)
open Text (isBlank byteLength CharAt VisibleAt)

/-! ## What reading leaves -/

namespace Placed

theorem span_suffix (test : Char → Bool) (text : List Placed) : (span test text).2 <:+ text := by
  induction text with
  | nil => exact List.suffix_rfl
  | cons first rest ih =>
      rw [span]
      split
      · exact ih.trans (List.suffix_cons first rest)
      · exact List.suffix_rfl

theorem afterWord?_suffix {word : List Char} {text left : List Placed}
    (read : afterWord? word text = some left) : left <:+ text := by
  fun_induction afterWord? word text with
  | case1 text =>
      obtain rfl := Option.some.inj read
      exact List.suffix_rfl
  | case2 => contradiction
  | case3 word first rest ih => exact (ih read).trans (List.suffix_cons first rest)
  | case4 => contradiction

end Placed

namespace Number

theorem digitRun_suffix (isDigit : Char → Bool) (text : List Placed) :
    (digitRun isDigit text).2 <:+ text := by
  fun_induction digitRun isDigit text with
  | case1 => exact List.suffix_rfl
  | case2 last digit => exact List.nil_suffix
  | case3 last other => exact List.suffix_rfl
  | case4 first second rest digit digits left shape ih =>
      rw [shape] at ih
      exact ih.trans (List.suffix_cons first _)
  | case5 first second rest other underscore ih => exact ih.trans (List.suffix_cons first _)
  | case6 first second rest other plain => exact List.suffix_rfl

theorem basedDigits?_suffix {isDigit : Char → Bool} {text left : List Placed}
    (read : basedDigits? isDigit text = some left) : left <:+ text := by
  have run := digitRun_suffix isDigit text
  rw [basedDigits?] at read
  split at read
  · contradiction
  · rename_i shape
    rw [shape] at run
    rw [← Option.some.inj read]
    exact run

theorem exponentDigits?_suffix {text left : List Placed}
    (read : exponentDigits? text = some left) : left <:+ text := by
  rw [exponentDigits?] at read
  split at read
  · contradiction
  · exact basedDigits?_suffix read

theorem exponent?_suffix {text left : List Placed} (read : exponent? text = some left) :
    left <:+ text := by
  fun_cases exponent? text with
  | case1 =>
      obtain rfl := Option.some.inj read
      exact List.suffix_rfl
  | case2 mark isMark sign digits isSign =>
      simp only [exponent?, isMark, isSign, if_true] at read
      have digitsLeft := exponentDigits?_suffix read
      exact (digitsLeft.trans (List.suffix_cons sign _)).trans (List.suffix_cons mark _)
  | case3 mark isMark sign digits plain =>
      simp only [exponent?, isMark, plain, if_true] at read
      exact (exponentDigits?_suffix read).trans (List.suffix_cons mark _)
  | case4 mark isMark =>
      simp only [exponent?, isMark, if_true] at read
      contradiction
  | case5 mark rest other =>
      simp only [exponent?, other] at read
      obtain rfl := Option.some.inj read
      exact List.suffix_rfl

theorem dropImaginary_suffix (text : List Placed) : dropImaginary text <:+ text := by
  cases text with
  | nil => exact List.suffix_rfl
  | cons mark rest =>
      rw [dropImaginary]
      split
      · exact List.suffix_cons mark rest
      · exact List.suffix_rfl

theorem decimal?_suffix {text left : List Placed} (read : decimal? text = some left) :
    left <:+ text := by
  have run := digitRun_suffix Char.isDigit text
  have imaginary : ∀ {number : List Placed} {result : Option (List Placed)},
      (∀ {rest}, result = some rest → rest <:+ number) →
        result.map dropImaginary = some left → left <:+ number := by
    intro number result ends mapped
    obtain ⟨rest, found, rfl⟩ := Option.map_eq_some_iff.mp mapped
    exact (dropImaginary_suffix rest).trans (ends found)
  simp only [decimal?] at read
  split at read
  · split at read
    · contradiction
    · have fraction := imaginary exponent?_suffix read
      exact ((fraction.trans (digitRun_suffix _ _)).trans (List.drop_suffix 1 _)).trans run
  · split at read
    · exact (imaginary exponent?_suffix read).trans run
    · split at read
      · contradiction
      · rw [← Option.some.inj read]
        exact (dropImaginary_suffix _).trans run

theorem scan?_suffix {text left : List Placed} (read : scan? text = some left) :
    left <:+ text := by
  have based : ∀ {isDigit : Char → Bool} {zero mark : Placed} {rest : List Placed},
      basedDigits? isDigit rest = some left → left <:+ zero :: mark :: rest :=
    fun found => ((basedDigits?_suffix found).trans (List.suffix_cons _ _)).trans
      (List.suffix_cons _ _)
  unfold scan? at read
  split at read
  · split at read
    · exact based read
    · split at read
      · exact based read
      · split at read
        · exact based read
        · exact decimal?_suffix read
  · exact decimal?_suffix read

end Number

namespace StringLiteral

theorem untilQuote?_suffix {quote : Char} {text left : List Placed} {content : List Char}
    (read : untilQuote? quote text = some (content, left)) : left <:+ text := by
  fun_induction untilQuote? quote text generalizing content left with
  | case1 => contradiction
  | case2 last closes =>
      simp only [Option.some.injEq, Prod.mk.injEq] at read
      rw [← read.2]
      exact List.nil_suffix
  | case3 => contradiction
  | case4 first second rest escaped ih =>
      obtain ⟨⟨inner, after⟩, found, shape⟩ := Option.map_eq_some_iff.mp read
      rw [← (Prod.mk.inj shape).2]
      exact ((ih found).trans (List.suffix_cons second _)).trans (List.suffix_cons first _)
  | case5 => contradiction
  | case6 first second rest plain sameLine closes =>
      simp only [Option.some.injEq, Prod.mk.injEq] at read
      rw [← read.2]
      exact List.suffix_cons first _
  | case7 first second rest plain sameLine inside ih =>
      obtain ⟨⟨inner, after⟩, found, shape⟩ := Option.map_eq_some_iff.mp read
      rw [← (Prod.mk.inj shape).2]
      exact (ih found).trans (List.suffix_cons first _)

theorem untilTripleQuote?_suffix {quote : Char} {text left : List Placed} {content : List Char}
    (read : untilTripleQuote? quote text = some (content, left)) : left <:+ text := by
  fun_induction untilTripleQuote? quote text generalizing content left with
  | case1 first second rest escaped ih =>
      obtain ⟨⟨inner, after⟩, found, shape⟩ := Option.map_eq_some_iff.mp read
      rw [← (Prod.mk.inj shape).2]
      exact ((ih found).trans (List.suffix_cons second _)).trans (List.suffix_cons first _)
  | case2 first second rest plain after closes =>
      simp only [Option.some.injEq, Prod.mk.injEq] at read
      rw [← read.2]
      exact Placed.afterWord?_suffix closes
  | case3 first second rest plain inside ih =>
      obtain ⟨⟨inner, after⟩, found, shape⟩ := Option.map_eq_some_iff.mp read
      rw [← (Prod.mk.inj shape).2]
      exact (ih found).trans (List.suffix_cons first _)
  | case4 => contradiction

theorem quoted?_suffix {text left : List Placed} {content : List Char}
    (read : quoted? text = some (content, left)) : left <:+ text := by
  cases text with
  | nil => contradiction
  | cons first rest =>
      simp only [quoted?] at read
      split at read
      · rename_i after opens
        have inner := (untilTripleQuote?_suffix read).trans (Placed.afterWord?_suffix opens)
        exact inner.trans (List.suffix_cons first rest)
      · exact (untilQuote?_suffix read).trans (List.suffix_cons first rest)

end StringLiteral

/-! ## No token starts with a blank -/

/-- A class of characters that rejects the 25 blank code points holds no blank. -/
theorem not_isBlank_of_rejects {test : Char → Bool}
    (rejects : ∀ code ∈ Text.blankCodes, test (Char.ofNat code) = false) {char : Char}
    (accepted : test char = true) : isBlank char = false := by
  rw [← Bool.not_eq_true]
  intro blank
  have rejected := rejects char.toNat (Text.isBlank_iff.mp blank)
  rw [Char.ofNat_toNat, accepted] at rejected
  exact Bool.noConfusion rejected

namespace StringLiteral

/-- Whether a string literal can start with a character: a quote, or a letter of one of its
prefixes. -/
def canStart (char : Char) : Bool :=
  isQuote char || isLetter 'r' char || isLetter 'f' char || isLetter 'b' char || isLetter 'u' char

theorem canStart_of_ofPrefix? {first : Char} {more : List Char}
    (known : (ofPrefix? (first :: more)).isSome) : canStart first = true := by
  match more with
  | [] => grind [canStart, ofPrefix?]
  | [second] => grind [canStart, ofPrefix?]
  | _ :: _ :: _ => contradiction

theorem prefixed?_start {first : Placed} {rest fromQuote : List Placed}
    {literal : List Char → StringLiteral}
    (read : prefixed? (first :: rest) = some (literal, fromQuote)) :
    canStart first.char = true ∧ fromQuote <:+ first :: rest := by
  have ends : ∀ {letters : List Char} {text : List Placed},
      (ofPrefix? letters).map (·, text) = some (literal, fromQuote) →
        (ofPrefix? letters).isSome ∧ fromQuote = text := by
    intro letters text mapped
    obtain ⟨made, known, pair⟩ := Option.map_eq_some_iff.mp mapped
    exact ⟨known ▸ rfl, (Prod.mk.inj pair).2.symm⟩
  simp only [prefixed?] at read
  split at read
  · rename_i quote
    obtain ⟨-, rfl⟩ := ends read
    exact ⟨by simp [canStart, quote], List.suffix_rfl⟩
  · split at read
    · rename_i second more
      split at read
      · obtain ⟨known, rfl⟩ := ends read
        exact ⟨canStart_of_ofPrefix? known, List.suffix_cons first _⟩
      · split at read
        · split at read
          · obtain ⟨known, rfl⟩ := ends read
            exact ⟨canStart_of_ofPrefix? known,
              (List.suffix_cons second _).trans (List.suffix_cons first _)⟩
          · contradiction
        · contradiction
    · contradiction

end StringLiteral

namespace Token

theorem symbols_start : ∀ spelling ∈ symbols, spelling.toList.head?.map isBlank = some false := by
  decide

theorem symbol?_start {first : Placed} {rest left : List Placed} {spelling : String}
    (read : symbol? (first :: rest) = some (spelling, left)) :
    isBlank first.char = false ∧ left <:+ first :: rest := by
  obtain ⟨found, member, shape⟩ := List.exists_of_findSome?_eq_some read
  obtain ⟨after, matched, pair⟩ := Option.map_eq_some_iff.mp shape
  obtain ⟨rfl, rfl⟩ := Prod.mk.inj pair
  refine ⟨?_, Placed.afterWord?_suffix matched⟩
  have start := symbols_start found member
  cases letters : found.toList with
  | nil =>
      rw [letters] at start
      contradiction
  | cons letter word =>
      rw [letters] at start matched
      rw [Placed.afterWord?] at matched
      split at matched
      · rename_i same
        rw [same]
        exact Option.some.inj start
      · contradiction

/-- A token starts with a character that can be seen, and reading it leaves an end of the
text. -/
theorem scan?_start {first : Placed} {rest left : List Placed} {token : Token}
    (read : scan? (first :: rest) = some (token, left)) :
    isBlank first.char = false ∧ left <:+ first :: rest := by
  simp only [scan?] at read
  split at read
  · rename_i literal fromQuote opened
    obtain ⟨⟨content, after⟩, closed, pair⟩ := Option.map_eq_some_iff.mp read
    obtain ⟨-, rfl⟩ := Prod.mk.inj pair
    obtain ⟨starts, fromQuoteSuffix⟩ := StringLiteral.prefixed?_start opened
    constructor
    · exact not_isBlank_of_rejects (by decide) starts
    · exact (StringLiteral.quoted?_suffix closed).trans fromQuoteSuffix
  · split at read
    · rename_i starts
      obtain ⟨-, rfl⟩ := Prod.mk.inj (Option.some.inj read)
      constructor
      · exact not_isBlank_of_rejects (by decide +kernel) starts
      · exact Placed.span_suffix _ _
    · split at read
      · rename_i starts
        obtain ⟨-, rfl⟩ := Prod.mk.inj (Option.some.inj read)
        constructor
        · exact not_isBlank_of_rejects (by decide +kernel) starts
        · exact List.suffix_cons first rest
      · split at read
        · rename_i starts
          obtain ⟨after, found, pair⟩ := Option.map_eq_some_iff.mp read
          obtain ⟨-, rfl⟩ := Prod.mk.inj pair
          refine ⟨?_, Number.scan?_suffix found⟩
          have digitOrPoint : (first.char.isDigit || first.char = '.') = true := by
            simp only [startsNumber, Bool.or_eq_true, Bool.and_eq_true] at starts ⊢
            exact starts.imp_right And.left
          exact @not_isBlank_of_rejects (fun char => char.isDigit || char = '.') (by decide) _
            digitOrPoint
        · obtain ⟨⟨spelling, after⟩, found, pair⟩ := Option.map_eq_some_iff.mp read
          obtain ⟨-, rfl⟩ := Prod.mk.inj pair
          exact symbol?_start found

end Token

/-! ## Layout -/

namespace Layout

/-- Measuring the depth of a line leaves an end of the text, and so does skipping a
comment before it. -/
theorem measure?_suffix (text : List Placed) {depth : Depth} {left : List Placed} :
    (∀ start, measure? start text = some (depth, left) → left <:+ text) ∧
      (measure?.comment? text = some (depth, left) → left <:+ text) := by
  induction text with
  | nil =>
      constructor
      · intro start read
        obtain ⟨-, rfl⟩ := Prod.mk.inj (Option.some.inj read)
        exact List.suffix_rfl
      · intro read
        obtain ⟨-, rfl⟩ := Prod.mk.inj (Option.some.inj read)
        exact List.suffix_rfl
  | cons first rest ih =>
      obtain ⟨line, comment⟩ := ih
      have step : left <:+ rest → left <:+ first :: rest :=
        fun ends => ends.trans (List.suffix_cons first rest)
      constructor
      · intro start read
        rw [measure?] at read
        split at read
        · exact step (line _ read)
        · split at read
          · split at read
            · exact step (line _ read)
            · contradiction
          · split at read
            · exact step (line _ read)
            · split at read
              · exact step (comment read)
              · obtain ⟨-, rfl⟩ := Prod.mk.inj (Option.some.inj read)
                exact List.suffix_rfl
      · intro read
        rw [measure?.comment?] at read
        split at read
        · exact step (line _ read)
        · exact step (comment read)

theorem startsLine_of_mem_closing {depth : Depth} {depths left : List Depth} {marks : List Token}
    (closed : indentation?.closing depth depths = some (marks, left)) :
    ∀ mark ∈ marks, startsLine mark = true := by
  induction depths generalizing marks left with
  | nil =>
      rw [indentation?.closing] at closed
      split at closed
      · obtain ⟨rfl, -⟩ := Prod.mk.inj (Option.some.inj closed)
        simp
      · contradiction
  | cons innermost outer ih =>
      rw [indentation?.closing] at closed
      split at closed
      · obtain ⟨rfl, -⟩ := Prod.mk.inj (Option.some.inj closed)
        simp
      · obtain ⟨⟨inner, kept⟩, found, pair⟩ := Option.map_eq_some_iff.mp closed
        obtain ⟨rfl, -⟩ := Prod.mk.inj pair
        simp only [List.mem_cons, forall_eq_or_imp]
        exact ⟨rfl, ih found⟩
      · contradiction

/-- What is put before a line are marks of the layout only. -/
theorem startsLine_of_mem_indentation? {depth : Depth} {depths left : List Depth}
    {marks : List Token} (marked : indentation? depth depths = some (marks, left)) :
    ∀ mark ∈ marks, startsLine mark = true := by
  cases depths with
  | nil =>
      rw [indentation?] at marked
      split at marked
      · obtain ⟨rfl, -⟩ := Prod.mk.inj (Option.some.inj marked)
        simp
      · obtain ⟨rfl, -⟩ := Prod.mk.inj (Option.some.inj marked)
        simp [startsLine]
      · contradiction
  | cons innermost outer =>
      rw [indentation?] at marked
      split at marked
      · obtain ⟨rfl, -⟩ := Prod.mk.inj (Option.some.inj marked)
        simp
      · obtain ⟨rfl, -⟩ := Prod.mk.inj (Option.some.inj marked)
        simp [startsLine]
      · obtain ⟨⟨inner, kept⟩, found, pair⟩ := Option.map_eq_some_iff.mp marked
        obtain ⟨rfl, -⟩ := Prod.mk.inj pair
        simp only [List.mem_cons, forall_eq_or_imp]
        exact ⟨rfl, startsLine_of_mem_closing found⟩
      · contradiction

end Layout

/-! ## The tokens of a program -/

/-- Every token other than a mark of the layout starts at an offset with a property. -/
def TokensStart (holds : Nat → Prop) (tokens : List Lexeme) : Prop :=
  ∀ lexeme ∈ tokens, startsLine lexeme.token = false → holds lexeme.start

theorem tokensStart_cons {holds : Nat → Prop} {first : Lexeme} {rest : List Lexeme} :
    TokensStart holds (first :: rest) ↔
      (startsLine first.token = false → holds first.start) ∧ TokensStart holds rest :=
  List.forall_mem_cons

namespace TokensStart

variable {holds : Nat → Prop} {first second : List Lexeme}

theorem nil : TokensStart holds [] :=
  fun _ member => absurd member List.not_mem_nil

theorem append (atFirst : TokensStart holds first) (atSecond : TokensStart holds second) :
    TokensStart holds (first ++ second) := by
  intro lexeme member content
  rcases List.mem_append.mp member with inFirst | inSecond
  · exact atFirst lexeme inFirst content
  · exact atSecond lexeme inSecond content

theorem of_marks (marks : ∀ lexeme ∈ first, startsLine lexeme.token = true) :
    TokensStart holds first := by
  intro lexeme member content
  rw [marks lexeme member] at content
  exact Bool.noConfusion content

theorem singleton {lexeme : Lexeme} (start : holds lexeme.start) : TokensStart holds [lexeme] :=
  tokensStart_cons.mpr ⟨fun _ => start, nil⟩

end TokensStart

/-- Every character that is not a line end stands where a source text has it. -/
def InPlace (source : List Char) (text : List Placed) : Prop :=
  ∀ placed ∈ text, placed.char ≠ '\n' → CharAt source placed.offset placed.char

theorem InPlace.of_suffix {source : List Char} {text left : List Placed}
    (placed : InPlace source text) (ends : left <:+ text) : InPlace source left :=
  fun first member => placed first (ends.subset member)

namespace Layout

variable {source : List Char} {cursor next : Cursor} {lexemes : List Lexeme}

theorem Cursor.startLine?_start {holds : Nat → Prop}
    (read : cursor.startLine? = some (lexemes, next)) :
    TokensStart holds lexemes ∧ next.rest <:+ cursor.rest := by
  simp only [startLine?, Option.bind_eq_bind, Option.pure_def] at read
  split at read
  · obtain ⟨⟨depth, rest⟩, measured, read⟩ := Option.bind_eq_some_iff.mp read
    obtain ⟨⟨marks, depths⟩, marked, read⟩ := Option.bind_eq_some_iff.mp read
    obtain ⟨rfl, rfl⟩ := Prod.mk.inj (Option.some.inj read)
    refine ⟨TokensStart.of_marks ?_, (measure?_suffix cursor.rest).1 _ measured⟩
    intro lexeme member
    obtain ⟨mark, inMarks, rfl⟩ := List.mem_map.mp member
    exact startsLine_of_mem_indentation? marked mark inMarks
  · obtain ⟨rfl, rfl⟩ := Prod.mk.inj (Option.some.inj read)
    exact ⟨TokensStart.nil, List.suffix_rfl⟩

/-- A token that is read starts at a character that can be seen. -/
theorem scanned_start {first : Placed} {rest left : List Placed} {token : Token}
    (placed : InPlace source (first :: rest)) (sameLine : first.char ≠ '\n')
    (scanned : Token.scan? (first :: rest) = some (token, left)) :
    TokensStart (VisibleAt source) [⟨token, first.offset⟩] ∧ left <:+ first :: rest := by
  obtain ⟨visible, ends⟩ := Token.scan?_start scanned
  have here := placed first List.mem_cons_self sameLine
  exact ⟨TokensStart.singleton ⟨first.char, here, visible⟩, ends⟩

/-- One step reads a token that starts at a character that can be seen, or it reads none,
and it leaves an end of the text. -/
theorem Cursor.advance?_start (placed : InPlace source cursor.rest)
    (read : cursor.advance? = some (lexemes, next)) :
    TokensStart (VisibleAt source) lexemes ∧ next.rest <:+ cursor.rest := by
  rw [advance?] at read
  split at read
  · contradiction
  · rename_i first rest shape
    rw [shape] at placed ⊢
    have behind := List.suffix_cons first rest
    split at read
    · split at read
      · obtain ⟨rfl, rfl⟩ := Prod.mk.inj (Option.some.inj read)
        exact ⟨TokensStart.of_marks (by simp [startsLine]), behind⟩
      · obtain ⟨rfl, rfl⟩ := Prod.mk.inj (Option.some.inj read)
        exact ⟨TokensStart.nil, behind⟩
    · rename_i sameLine
      split at read
      · obtain ⟨rfl, rfl⟩ := Prod.mk.inj (Option.some.inj read)
        exact ⟨TokensStart.nil, behind⟩
      · split at read
        · obtain ⟨rfl, rfl⟩ := Prod.mk.inj (Option.some.inj read)
          exact ⟨TokensStart.nil, (Placed.span_suffix _ _).trans behind⟩
        · split at read
          · split at read
            · rename_i lineEnd following more
              split at read
              · obtain ⟨rfl, rfl⟩ := Prod.mk.inj (Option.some.inj read)
                exact ⟨TokensStart.nil, (List.suffix_cons lineEnd _).trans behind⟩
              · contradiction
            · contradiction
          · split at read
            · contradiction
            · rename_i token left scanned
              have start := scanned_start placed sameLine scanned
              split at read
              · obtain ⟨rfl, rfl⟩ := Prod.mk.inj (Option.some.inj read)
                exact start
              · split at read
                · split at read
                  · contradiction
                  · obtain ⟨rfl, rfl⟩ := Prod.mk.inj (Option.some.inj read)
                    exact start
                · obtain ⟨rfl, rfl⟩ := Prod.mk.inj (Option.some.inj read)
                  exact start

theorem Cursor.finish?_start {holds : Nat → Prop} (read : cursor.finish? = some lexemes) :
    TokensStart holds lexemes := by
  rw [finish?] at read
  split at read
  · rw [← Option.some.inj read]
    refine TokensStart.append ?_ (TokensStart.of_marks (by simp [startsLine]))
    split
    · exact TokensStart.nil
    · exact TokensStart.of_marks (by simp [startsLine])
  · contradiction

/-- From a place of the text on, every token starts at a character that can be seen. -/
theorem tokensFrom_start {fuel : Nat} (placed : InPlace source cursor.rest)
    (read : tokensFrom fuel cursor = some lexemes) : TokensStart (VisibleAt source) lexemes := by
  induction fuel generalizing cursor lexemes with
  | zero => contradiction
  | succ fuel ih =>
      simp only [tokensFrom, Option.bind_eq_bind, Option.pure_def] at read
      obtain ⟨⟨marks, line⟩, started, read⟩ := Option.bind_eq_some_iff.mp read
      obtain ⟨marksStart, lineEnds⟩ := Cursor.startLine?_start started
      split at read
      · obtain ⟨closing, finished, read⟩ := Option.bind_eq_some_iff.mp read
        rw [← Option.some.inj read]
        exact marksStart.append (Cursor.finish?_start finished)
      · obtain ⟨⟨found, next⟩, advanced, read⟩ := Option.bind_eq_some_iff.mp read
        obtain ⟨more, continued, read⟩ := Option.bind_eq_some_iff.mp read
        have linePlaced := placed.of_suffix lineEnds
        obtain ⟨foundStart, nextEnds⟩ := Cursor.advance?_start linePlaced advanced
        rw [← Option.some.inj read]
        exact (marksStart.append foundStart).append (ih (linePlaced.of_suffix nextEnds) continued)

end Layout

/-- Settling which words are keywords moves no token. -/
theorem SoftKeyword.settle_start {holds : Nat → Prop} {tokens : List Lexeme} (atStart : Bool)
    (start : TokensStart holds tokens) : TokensStart holds (settle atStart tokens) := by
  induction tokens generalizing atStart with
  | nil => exact start
  | cons lexeme rest ih =>
      obtain ⟨atFirst, atRest⟩ := tokensStart_cons.mp start
      refine tokensStart_cons.mpr ⟨fun content => atFirst ?_, ih _ atRest⟩
      -- Only a keyword is settled, and neither a keyword nor a name is a mark.
      cases shape : lexeme.token <;> simp_all [startsLine]

/-- Placing the rest of a text behind the bytes of its front puts every character where
the text has it.  Only a carriage return changes, into a line end. -/
theorem Placed.inPlace_place {source front text : List Char} {offset : Nat}
    (whole : source = front ++ text) (size : byteLength front = offset) :
    InPlace source (place offset text) := by
  fun_induction place offset text generalizing front with
  | case1 offset => exact fun placed member => absurd member List.not_mem_nil
  | case2 offset rest ih =>
      have inner := @ih (front ++ ['\r', '\n']) (by simp [whole]) (by simp [← size]; rfl)
      intro placed member sameLine
      rcases List.mem_cons.mp member with rfl | inRest
      · contradiction
      · exact inner placed inRest sameLine
  | case3 offset rest alone ih =>
      have inner := @ih (front ++ ['\r']) (by simp [whole]) (by simp [← size]; rfl)
      intro placed member sameLine
      rcases List.mem_cons.mp member with rfl | inRest
      · contradiction
      · exact inner placed inRest sameLine
  | case4 offset char rest noPair plain ih =>
      have inner := @ih (front ++ [char]) (by simp [whole]) (by simp [← size])
      intro placed member sameLine
      rcases List.mem_cons.mp member with rfl | inRest
      · exact ⟨front, rest, whole, size⟩
      · exact inner placed inRest sameLine

theorem Placed.inPlace_ofSource (source : List Char) : InPlace source (ofSource source) := by
  unfold ofSource
  split
  · rename_i rest
    have whole : '\uFEFF' :: rest = ['\uFEFF'] ++ rest := rfl
    exact inPlace_place whole rfl
  · exact inPlace_place (List.nil_append source).symm rfl

/-- Every token of a program, other than the marks of its layout, starts at a character of
the source text that can be seen. -/
theorem SoftKeyword.programTokens?_start {source : List Char} {tokens : List Lexeme}
    (read : programTokens? source = some tokens) : TokensStart (VisibleAt source) tokens := by
  obtain ⟨raw, found, rfl⟩ := Option.map_eq_some_iff.mp read
  exact settle_start true (Layout.tokensFrom_start (Placed.inPlace_ofSource source) found)

end DecoratorLint.Source
