import Descent.Grammar.Run
import Descent.Proofs.Digits
import Descent.Proofs.Recognition
import Descent.Proofs.Termination

/-!
# Arithmetic

A grammar for sums and differences of products of numbers, where a sum in brackets
stands for a number. It is read by a parser that never goes back behind a match, and
yet the parser reads all that the grammar derives and nothing else, and computes what
is denoted.
-/

namespace Descent.Arithmetic

/-! ## The parser -/

/-- A decimal number. -/
def number : Expr Char :=
  .map none .int (.oneOrMore .text (.oneOf "0123456789".toList))

/-- A number, or a sum in brackets. -/
def factor : Expr Char :=
  .choice number (.discardRight (.discardLeft (.token '(') (.rule "expression")) (.token ')'))

/-- Factors, multiplied from the left. -/
def term : Expr Char :=
  .apply none .fold factor (.zeroOrMore .list (.both (.token '*') factor))

/-- Terms, added and subtracted from the left. -/
def expression : Expr Char :=
  .apply none .fold term (.zeroOrMore .list (.both (.oneOf ['+', '-']) term))

/-- The expression, which is itself the only rule. -/
def grammar : Grammar Char := ⟨expression, [("expression", expression)]⟩

/-! ## The language -/

/-- The three kinds of phrases. -/
inductive Kind where
  | expression
  | term
  | factor

/-- The phrases of each kind and the numbers that they denote. Arithmetic is on 64-bit
numbers and wraps. A phrase with several operators of one kind is derived from the left,
so that each operator applies to all that stands before it. -/
inductive Derives : Kind → List Char → Int64 → Prop where
  | term {text : List Char} {value : Int64} (phrase : Derives .term text value) :
      Derives .expression text value
  | plus {text later : List Char} {left right : Int64}
      (ahead : Derives .expression text left) (behind : Derives .term later right) :
      Derives .expression (text ++ '+' :: later) (left + right)
  | minus {text later : List Char} {left right : Int64}
      (ahead : Derives .expression text left) (behind : Derives .term later right) :
      Derives .expression (text ++ '-' :: later) (left - right)
  | factor {text : List Char} {value : Int64} (phrase : Derives .factor text value) :
      Derives .term text value
  | times {text later : List Char} {left right : Int64}
      (ahead : Derives .term text left) (behind : Derives .factor later right) :
      Derives .term (text ++ '*' :: later) (left * right)
  | number {digits : List Char} (nonempty : digits ≠ [])
      (all : digits.all Char.isDigit = true) :
      Derives .factor digits (Int64.ofNat (Text.decimal digits))
  | brackets {text : List Char} {value : Int64} (phrase : Derives .expression text value) :
      Derives .factor ('(' :: (text ++ [')'])) value

theorem derives_term_iff (text : List Char) (value : Int64) :
    Derives .term text value ↔
      Reading.Chained (· == '*') (Derives .factor) text value := by
  constructor
  · intro derived
    generalize kind : Kind.term = which at derived
    induction derived with
    | factor phrase => exact .single phrase
    | times ahead behind aheadIH behindIH =>
        exact (aheadIH kind).more rfl behind
    | term _ _ | plus _ _ _ _ | minus _ _ _ _ | number _ _ | brackets _ _ => cases kind
  · intro chained
    induction chained with
    | single first => exact .factor first
    | more chained symbol last inductionHypothesis =>
        cases eq_of_beq symbol
        exact .times inductionHypothesis last

theorem derives_expression_iff (text : List Char) (value : Int64) :
    Derives .expression text value ↔
      Reading.Chained ['+', '-'].contains (Derives .term) text value := by
  constructor
  · intro derived
    generalize kind : Kind.expression = which at derived
    induction derived with
    | term phrase => exact .single phrase
    | plus ahead behind aheadIH behindIH =>
        exact (aheadIH kind).more rfl behind
    | minus ahead behind aheadIH behindIH =>
        exact (aheadIH kind).more rfl behind
    | factor _ _ | times _ _ _ _ | number _ _ | brackets _ _ => cases kind
  · intro chained
    induction chained with
    | single first => exact .term first
    | more chained symbol last inductionHypothesis =>
        have either := List.contains_iff_mem.mp symbol
        rcases List.mem_cons.mp either with rfl | single
        · exact .plus inductionHypothesis last
        · cases List.mem_singleton.mp single
          exact .minus inductionHypothesis last

/-- The value of digits that are read as a text. -/
def Numeral (text : List Char) (value : Int64) : Prop :=
  text ≠ [] ∧ text.all Char.isDigit = true ∧ value = Int64.ofNat (Text.decimal text)

theorem derives_factor_iff (text : List Char) (value : Int64) :
    Derives .factor text value ↔
      Numeral text value ∨
        ∃ inner, text = '(' :: (inner ++ [')']) ∧ Derives .expression inner value := by
  constructor
  · intro derived
    cases derived with
    | number nonempty all => exact .inl ⟨nonempty, all, rfl⟩
    | brackets phrase => exact .inr ⟨_, rfl, phrase⟩
  · rintro (⟨nonempty, all, rfl⟩ | ⟨inner, rfl, phrase⟩)
    · exact .number nonempty all
    · exact .brackets phrase

/-! ## Numbers -/

theorem contains_digits (char : Char) :
    "0123456789".toList.contains char = char.isDigit := by
  have digits : "0123456789".toList = ['0', '1', '2', '3', '4', '5', '6', '7', '8', '9'] := by
    decide
  rw [digits, Bool.eq_iff_iff]
  constructor
  · intro member
    simp only [List.contains_iff_mem, List.mem_cons, List.not_mem_nil, or_false] at member
    rcases member with rfl | rfl | rfl | rfl | rfl | rfl | rfl | rfl | rfl | rfl <;> decide
  · intro digit
    simp [Char.isDigit, UInt32.le_iff_toNat_le] at digit
    simp [Char.ext_iff, ← UInt32.toNat_inj]
    omega

section Numbers

variable {expected : String} {start cursor next : Cursor Char} {source : Source Char}

/-- Reads one digit. -/
def digit (expected : String) : Reading Char (Value Char) :=
  .single expected "0123456789".toList.contains

/-- What has been gathered are the digits since the start. -/
def Spelled (start : Cursor Char) (gathered : String) (cursor : Cursor Char) : Prop :=
  start.Passes gathered.toList cursor ∧ gathered.toList ≠ [] ∧
    gathered.toList.all Char.isDigit = true

theorem Spelled.push {gathered : String} {char : Char} (spelled : Spelled start gathered cursor)
    (passes : cursor.Passes [char] next) (isDigit : char.isDigit = true) :
    Spelled start (gathered ++ String.singleton char) next := by
  rcases spelled with ⟨before, nonempty, all⟩
  have text : (gathered ++ String.singleton char).toList = gathered.toList ++ [char] := by
    simp
  refine ⟨?_, ?_, ?_⟩
  · rw [text]
    exact before.trans passes
  · rw [text]
    exact List.append_ne_nil_of_left_ne_nil nonempty [char]
  · rw [text, List.all_append, all]
    simpa using isDigit

/-- The loop behind the first digit never fails, and gathers digits. -/
theorem spelled_of_unlimited {gathered : String} {outcome : Outcome Char String}
    (spelled : Spelled start gathered cursor)
    (ends : (digit expected).unlimited (Collector.text Value.textOf).push gathered cursor =
      some outcome) :
    ∃ found, outcome = .ok found ∧ Spelled start found.value found.rest := by
  refine Reading.unlimited_rule (Spelled start)
    (fun outcome => ∃ found, outcome = .ok found ∧ Spelled start found.value found.rest)
    ?mismatch ?failure ?standstill ?step spelled ends
  case mismatch =>
    intro gathered cursor error spelled failed recoverable
    exact ⟨_, rfl, spelled⟩
  case failure =>
    intro gathered cursor error spelled failed final
    rw [Reading.isRecoverable_single failed] at final
    cases final
  case standstill =>
    intro gathered cursor found spelled succeeded still
    rcases Reading.single_eq_ok.mp succeeded with ⟨char, passes, _⟩
    rw [passes.beq_eq_false (List.cons_ne_nil char [])] at still
    cases still
  case step =>
    intro gathered cursor found spelled succeeded moved
    rcases Reading.single_eq_ok.mp succeeded with ⟨char, passes, accepted, value⟩
    rw [contains_digits] at accepted
    rw [value]
    exact spelled.push passes accepted

/-- The loop behind the first digit reads all digits that follow. -/
theorem unlimited_of_digits {digits : List Char} (all : digits.all Char.isDigit = true)
    (passes : cursor.Passes digits next) (last : next.NextIs fun char => !char.isDigit)
    (gathered : String) :
    (digit expected).unlimited (Collector.text Value.textOf).push gathered cursor =
      some (.ok ⟨gathered ++ String.ofList digits, next⟩) := by
  induction digits generalizing gathered cursor with
  | nil =>
      cases passes.eq_of_nil
      have refused : next.NextIs fun char => !"0123456789".toList.contains char := by
        simpa only [contains_digits] using last
      have failed : digit expected next = some (.error (.unexpected next expected)) :=
        Reading.single_refuses refused
      rw [Reading.unlimited_of_error failed (Reading.isRecoverable_unexpected _ _)]
      simp
  | cons char digits inductionHypothesis =>
      rcases Bool.and_eq_true_iff.mp all with ⟨isDigit, rest⟩
      rw [← List.singleton_append] at passes
      rcases passes.split with ⟨between, charPasses, restPasses⟩
      have accepted : "0123456789".toList.contains char = true := by
        rw [contains_digits, isDigit]
      have nonempty := List.cons_ne_nil char []
      have read : digit expected cursor = some (.ok ⟨.token char, between⟩) :=
        Reading.single_of_passes charPasses accepted
      rw [Reading.unlimited_of_ok read (charPasses.beq_eq_false nonempty)
        (charPasses.remainingLength_lt nonempty), inductionHypothesis rest restPasses]
      have text : (Collector.text Value.textOf).push gathered (.token char) ++
          String.ofList digits = gathered ++ String.ofList (char :: digits) := by
        rw [← String.toList_inj]
        simp [Collector.text, Value.textOf, Token.describe]
      rw [text]

/-- Reads digits as a text. -/
def spelling (expected : String) : Reading Char String :=
  .oneOrMore (.text Value.textOf) (digit expected)

theorem spelling_eq_some {outcome : Outcome Char String}
    (ends : spelling expected cursor = some outcome) :
    (∃ error, outcome = .error error ∧ error.isRecoverable = true) ∨
      ∃ found, outcome = .ok found ∧ Spelled cursor found.value found.rest := by
  rcases Reading.andThen_eq_some ends with ⟨error, failed, rfl⟩ | ⟨first, succeeded, more⟩
  · exact .inl ⟨error, rfl, Reading.isRecoverable_single failed⟩
  · rcases Reading.single_eq_ok.mp succeeded with ⟨char, passes, accepted, value⟩
    rw [contains_digits] at accepted
    rw [passes.beq_eq_false (List.cons_ne_nil char []), value] at more
    have text : (String.singleton char).toList = [char] := by simp
    have spelled : Spelled cursor ("" ++ String.singleton char) first.rest := by
      rw [String.empty_append]
      refine ⟨?_, ?_, ?_⟩
      · rw [text]
        exact passes
      · rw [text]
        exact List.cons_ne_nil char []
      · rw [text]
        simpa using accepted
    exact .inr (spelled_of_unlimited spelled more)

theorem spelling_of_digits {digits : List Char} (nonempty : digits ≠ [])
    (all : digits.all Char.isDigit = true) (passes : cursor.Passes digits next)
    (last : next.NextIs fun char => !char.isDigit) :
    spelling expected cursor = some (.ok ⟨String.ofList digits, next⟩) := by
  cases digits with
  | nil => exact absurd rfl nonempty
  | cons char digits =>
      rcases Bool.and_eq_true_iff.mp all with ⟨isDigit, rest⟩
      rw [← List.singleton_append] at passes
      rcases passes.split with ⟨between, charPasses, restPasses⟩
      have accepted : "0123456789".toList.contains char = true := by
        rw [contains_digits, isDigit]
      have read : digit expected cursor = some (.ok ⟨.token char, between⟩) :=
        Reading.single_of_passes charPasses accepted
      have moved := charPasses.beq_eq_false (List.cons_ne_nil char [])
      rw [spelling, Reading.oneOrMore, Reading.andThen, read]
      simp only [moved, Bool.false_eq_true, ↓reduceIte]
      rw [unlimited_of_digits rest restPasses last]
      have text : (Collector.text Value.textOf).push
          (Collector.text (α := Value Char) Value.textOf).start (.token char) ++
          String.ofList digits = String.ofList (char :: digits) := by
        rw [← String.toList_inj]
        simp [Collector.text, Value.textOf, Token.describe]
      rw [text]

/-- Reads a number. -/
def numeral (expected : String) : Reading Char (Value Char) :=
  ((spelling expected).map .text).map Transform.int.apply

theorem apply_int_text {digits : List Char} (nonempty : digits ≠ [])
    (all : digits.all Char.isDigit = true) (fits : Text.decimal digits < 2 ^ 63) :
    Transform.int.apply (.text (String.ofList digits) : Value Char) =
      .int (Int64.ofNat (Text.decimal digits)) := by
  have read := Text.readInt64_of_digits nonempty all fits
  simp only [Transform.apply, Value.intOf, Value.textOf, read, Option.getD_some]

/-- Numbers are recognized where their digits fit. -/
theorem recognizes_numeral (fits : Text.DigitRunsFit source.tokens.toList) (bound : Nat) :
    (numeral expected).Recognizes source bound (fun char => !char.isDigit) Numeral where
  sound := by
    intro cursor found place succeeded
    rcases Reading.map_eq_ok.mp succeeded with ⟨_, textRead, rfl⟩
    rcases Reading.map_eq_ok.mp textRead with ⟨gathered, spelledRead, rfl⟩
    rcases spelling_eq_some spelledRead with ⟨_, impossible, _⟩ | ⟨_, same, spelled⟩
    · cases impossible
    · cases same
      rcases spelled with ⟨passes, nonempty, all⟩
      have inSource := passes.tokens_eq
      rw [place] at inSource
      have value := apply_int_text nonempty all (fits.decimal_lt inSource all)
      rw [String.ofList_toList] at value
      exact ⟨_, _, passes, value, nonempty, all, rfl⟩
  complete := by
    rintro cursor next text number place near passes allowed ⟨nonempty, all, rfl⟩
    have spelled : spelling expected cursor = _ :=
      spelling_of_digits nonempty all passes allowed
    have inSource := passes.tokens_eq
    rw [place] at inSource
    refine Reading.map_eq_ok.mpr ⟨_, Reading.map_eq_ok.mpr ⟨_, spelled, rfl⟩, ?_⟩
    rw [apply_int_text nonempty all (fits.decimal_lt inSource all)]
  mild := by
    intro cursor error place failed
    have failed := Reading.map_eq_error.mp (Reading.map_eq_error.mp failed)
    rcases spelling_eq_some failed with ⟨_, same, recoverable⟩ | ⟨_, impossible, _⟩
    · cases same
      exact recoverable
    · cases impossible

/-- No number starts with anything but a digit. -/
theorem numeral_refuses (refused : cursor.NextIs fun char => !char.isDigit) :
    ∃ error, numeral expected cursor = some (.error error) := by
  have failed : digit expected cursor = some (.error (.unexpected cursor expected)) := by
    apply Reading.single_refuses
    simpa only [contains_digits] using refused
  refine ⟨.unexpected cursor expected, ?_⟩
  apply Reading.map_eq_error.mpr
  apply Reading.map_eq_error.mpr
  rw [spelling, Reading.oneOrMore, Reading.andThen, failed]

end Numbers

/-! ## Brackets -/

section Brackets

variable {expected opening closing : String} {cursor next : Cursor Char}
variable {source : Source Char} {bound : Nat} {inner : Reading Char (Value Char)}

/-- What may follow an expression. -/
def followsExpression (char : Char) : Bool :=
  (!char.isDigit && !(char == '*')) && !(['+', '-'].contains char)

/-- Reads an expression in brackets. -/
def bracketed (opening closing : String) (inner : Reading Char (Value Char)) :
    Reading Char (Value Char) :=
  .sequence (fun output _ => output)
    (.sequence (fun _ output => output) (.single opening (· == '(')) inner)
    (.single closing (· == ')'))

theorem bracketed_sound
    (recognizes : inner.Recognizes source bound followsExpression (Derives .expression))
    (place : cursor.source = source) {found : Match Char (Value Char)}
    (succeeded : bracketed opening closing inner cursor = some (.ok found)) :
    ∃ text number, cursor.Passes ('(' :: (text ++ [')'])) found.rest ∧
      found.value = .int number ∧ Derives .expression text number := by
  rcases Reading.sequence_eq_ok.mp succeeded with ⟨ahead, last, aheadRead, lastRead, rfl⟩
  rcases Reading.sequence_eq_ok.mp aheadRead with ⟨first, middle, firstRead, middleRead, rfl⟩
  rcases Reading.single_eq_ok.mp firstRead with ⟨_, firstPasses, opens, _⟩
  rcases Reading.single_eq_ok.mp lastRead with ⟨_, lastPasses, closes, _⟩
  cases eq_of_beq opens
  cases eq_of_beq closes
  obtain ⟨text, number, passes, value, phrase⟩ :=
    recognizes.sound (firstPasses.source.trans place) middleRead
  exact ⟨text, number, firstPasses.trans (passes.trans lastPasses), value, phrase⟩

theorem bracketed_complete
    (recognizes : inner.Recognizes source bound followsExpression (Derives .expression))
    (place : cursor.source = source) (near : cursor.remainingLength < bound + 1)
    {text : List Char} {number : Int64}
    (passes : cursor.Passes ('(' :: (text ++ [')'])) next)
    (phrase : Derives .expression text number) :
    bracketed opening closing inner cursor = some (.ok ⟨.int number, next⟩) := by
  rw [← List.singleton_append] at passes
  rcases passes.split with ⟨opened, firstPasses, rest⟩
  rcases rest.split with ⟨closed, middlePasses, lastPasses⟩
  have openedNear : opened.remainingLength < bound := by
    have shorter := firstPasses.remainingLength_lt (List.cons_ne_nil '(' [])
    omega
  have allowed : closed.NextIs followsExpression := (lastPasses.nextIs_iff _).mpr rfl
  have middleRead := recognizes.complete (firstPasses.source.trans place) openedNear
    middlePasses allowed phrase
  have firstRead : Reading.single opening (· == '(') cursor = _ :=
    Reading.single_of_passes firstPasses rfl
  have lastRead : Reading.single closing (· == ')') closed = _ :=
    Reading.single_of_passes lastPasses rfl
  have aheadRead : Reading.sequence (fun _ output => output) (.single opening (· == '(')) inner
      cursor = some (.ok ⟨.int number, closed⟩) :=
    Reading.sequence_eq_ok.mpr ⟨_, _, firstRead, middleRead, rfl⟩
  exact Reading.sequence_eq_ok.mpr ⟨_, _, aheadRead, lastRead, rfl⟩

theorem bracketed_mild
    (recognizes : inner.Recognizes source bound followsExpression (Derives .expression))
    (place : cursor.source = source) {error : ParseError Char}
    (failed : bracketed opening closing inner cursor = some (.error error)) :
    error.isRecoverable = true := by
  rcases Reading.sequence_eq_error.mp failed with aheadFailed | ⟨ahead, _, lastFailed⟩
  · rcases Reading.sequence_eq_error.mp aheadFailed with firstFailed | ⟨first, firstRead, more⟩
    · exact Reading.isRecoverable_single firstFailed
    · rcases Reading.single_eq_ok.mp firstRead with ⟨_, passes, _⟩
      exact recognizes.mild (passes.source.trans place) more
  · exact Reading.isRecoverable_single lastFailed

/-- Factors are recognized if expressions are where fewer tokens are left. -/
theorem recognizes_factor (fits : Text.DigitRunsFit source.tokens.toList)
    (recognizes : inner.Recognizes source bound followsExpression (Derives .expression)) :
    (Reading.choice (numeral expected) (bracketed opening closing inner)).Recognizes source
      (bound + 1) (fun char => !char.isDigit) (Derives .factor) where
  sound := by
    intro cursor found place succeeded
    rcases Reading.choice_eq_some succeeded with
      ⟨_, read, same⟩ | ⟨_, _, ⟨_, read, same⟩ | ⟨_, _, impossible⟩⟩
    · cases same
      obtain ⟨text, number, passes, value, numeral⟩ :=
        (recognizes_numeral fits bound).sound place read
      exact ⟨text, number, passes, value, (derives_factor_iff _ _).mpr (.inl numeral)⟩
    · cases same
      rcases bracketed_sound recognizes place read with ⟨text, number, passes, value, phrase⟩
      exact ⟨_, number, passes, value, .brackets phrase⟩
    · cases impossible
  complete := by
    intro cursor next text number place near passes allowed phrase
    rcases (derives_factor_iff _ _).mp phrase with digits | ⟨text, rfl, innerPhrase⟩
    · have read : numeral expected cursor = _ :=
        (recognizes_numeral fits _).complete place near passes allowed digits
      rw [Reading.choice, read]
    · have refused : cursor.NextIs fun char => !char.isDigit := (passes.nextIs_iff _).mpr rfl
      obtain ⟨error, failed⟩ : ∃ error, numeral expected cursor = some (.error error) :=
        numeral_refuses refused
      rw [Reading.choice, failed]
      simp only [bracketed_complete recognizes place near passes innerPhrase]
  mild := by
    intro cursor error place failed
    rcases Reading.choice_eq_some failed with
      ⟨_, _, impossible⟩ |
      ⟨first, firstFailed, ⟨_, _, impossible⟩ | ⟨other, otherFailed, same⟩⟩
    · cases impossible
    · cases impossible
    · cases same
      rcases ParseError.furthest_eq_or first other with furthest | furthest
      · rw [furthest]
        exact (recognizes_numeral fits bound).mild place firstFailed
      · rw [furthest]
        exact bracketed_mild recognizes place otherFailed

end Brackets

/-! ## Expressions -/

/-- Expressions are recognized if they are where fewer tokens are left. -/
theorem recognizes_expression {source : Source Char}
    (fits : Text.DigitRunsFit source.tokens.toList) {bound : Nat}
    {enter : String → Reading Char (Value Char)}
    (recognizes : (enter "expression").Recognizes source bound followsExpression
      (Derives .expression)) :
    (expression.parser.reading enter).Recognizes source (bound + 1) followsExpression
      (Derives .expression) := by
  have starApart (char : Char) (star : (char == '*') = true) : (!char.isDigit) = true := by
    cases eq_of_beq star
    rfl
  have signApart (char : Char) (sign : ['+', '-'].contains char = true) :
      (!char.isDigit && !(char == '*')) = true := by
    rcases List.mem_cons.mp (List.contains_iff_mem.mp sign) with rfl | single
    · rfl
    · cases List.mem_singleton.mp single
      rfl
  exact (((recognizes_factor fits recognizes).chain starApart).congr derives_term_iff).chain
    signApart |>.congr derives_expression_iff

theorem recognizes_readingAt {source : Source Char}
    (fits : Text.DigitRunsFit source.tokens.toList) (depth : Nat) :
    (grammar.table.readingAt depth "expression").Recognizes source depth followsExpression
      (Derives .expression) := by
  induction depth with
  | zero =>
      refine ⟨?_, ?_, ?_⟩
      · intro cursor found place impossible
        cases impossible
      · intro cursor next text number place near
        exact absurd near (Nat.not_lt_zero _)
      · intro cursor error place impossible
        cases impossible
  | succ depth inductionHypothesis => exact recognizes_expression fits inductionHypothesis

/-- The rule stands behind an opening bracket. -/
theorem guarded_table : grammar.table.Guarded := by
  intro name
  have opening : grammar.table.Advances (.map none Value.token (.token '(')) :=
    (grammar.table.advances_satisfy _ _ _).map none Value.token
  have factors : factor.parser.RulesBehind grammar.table.Advances :=
    ⟨trivial, ⟨trivial, .inl opening⟩, .inr trivial⟩
  have terms : term.parser.RulesBehind grammar.table.Advances :=
    ⟨factors, .inr ⟨trivial, .inr factors⟩⟩
  have expressions : expression.parser.RulesBehind grammar.table.Advances :=
    ⟨terms, .inr ⟨trivial, .inr terms⟩⟩
  cases same : name == "expression" with
  | true =>
      have body : grammar.table.body name = expression.parser := by
        simp only [Grammar.table, grammar, List.lookup_cons, List.lookup_nil, same]
      rw [body]
      exact expressions
  | false =>
      have body : grammar.table.body name = .fail ("a rule named " ++ name) "none" := by
        simp only [Grammar.table, grammar, List.lookup_cons, List.lookup_nil, same]
      rw [body]
      exact trivial

/-- A text is read if it is an expression, as the number that it denotes. Any other text
is a mismatch. -/
theorem parse_iff_derives (source : Source Char)
    (fits : Text.DigitRunsFit source.tokens.toList) :
    ∃ reply, grammar.parse source = some reply ∧
      (∀ value, (∃ found, reply.outcome = .ok found ∧ found.value = .int value) ↔
        Derives .expression source.tokens.toList value) ∧
      ((∃ found, reply.outcome = .ok found) ↔
        ∃ value, Derives .expression source.tokens.toList value) ∧
      ∀ error, reply.outcome = .error error →
        ∃ expected actual, error.cause = .mismatch expected actual := by
  let depth := grammar.depth (.start source)
  have near : (Cursor.start source).remainingLength < depth := by
    show _ < 1 * ((Cursor.start source).remainingLength + 1) + 1
    omega
  have ends := expression.parser.complete.endsBelow_reading
    (grammar.table.forward_readingAt depth) (guarded_table.endsBelow_readingAt depth)
  rcases Rules.run_of_endsBelow ends [] .blank near with ⟨reply, replies⟩
  have recognizes := recognizes_expression fits (recognizes_readingAt fits depth)
  obtain ⟨values, derived, mild⟩ :=
    recognizes.whole (Nat.lt_succ_of_lt near) (Rules.reading_of_run replies)
  refine ⟨reply, replies, values, derived, ?_⟩
  intro error failed
  exact ParseError.isRecoverable_iff.mp (mild error failed)

/-- Differences are taken from the left. -/
theorem parse_iff_derives_difference :
    Text.DigitRunsFit ['1', '0', '-', '2', '-', '3'] ∧
      ∃ reply, grammar.parse ⟨0, #['1', '0', '-', '2', '-', '3']⟩ = some reply ∧
        ∃ found, reply.outcome = .ok found ∧ found.value = .int 5 := by
  have fits : Text.DigitRunsFit ['1', '0', '-', '2', '-', '3'] :=
    Text.digitRunsFit_of_length_le (by decide)
  have digit (char : Char) (isDigit : [char].all Char.isDigit = true) :
      Derives .term [char] (Int64.ofNat (Text.decimal [char])) :=
    .factor (.number (List.cons_ne_nil char []) isDigit)
  have ten : Derives .expression ['1', '0'] 10 :=
    .term (.factor (.number (List.cons_ne_nil _ _) (by decide)))
  have derived : Derives .expression ['1', '0', '-', '2', '-', '3'] 5 :=
    (ten.minus (digit '2' (by decide))).minus (digit '3' (by decide))
  obtain ⟨reply, parsed, values, _⟩ :=
    parse_iff_derives ⟨0, #['1', '0', '-', '2', '-', '3']⟩ fits
  exact ⟨fits, reply, parsed, (values 5).mpr derived⟩

end Descent.Arithmetic
