import Descent.Grammar.Function
import Descent.Proofs.Tokens

/-!
# Reading phrases

A reading recognizes phrases, each of which denotes a number, if it reads nothing else
and reads every phrase that is not followed by what could go on with it. Readings are
greedy and never go back, so it matters what follows: a row of operands with operators
in between is read whole, because no operator follows an operand in any other way.
-/

namespace Descent

namespace Reading

/-! ## Single tokens -/

/-- Reads a token that passes a test, as a value. -/
def single (expected : String) (accepts : Char → Bool) : Reading Char (Value Char) :=
  (satisfy expected accepts).map .token

section Single

variable {expected : String} {accepts : Char → Bool} {cursor next : Cursor Char}

theorem single_eq_ok {found : Match Char (Value Char)} :
    single expected accepts cursor = some (.ok found) ↔
      ∃ char, cursor.Passes [char] found.rest ∧ accepts char = true ∧
        found.value = .token char := by
  rw [single, map_eq_ok]
  constructor
  · rintro ⟨before, succeeded, rfl⟩
    rcases satisfy_eq_ok.mp succeeded with ⟨seen, accepted⟩
    exact ⟨before.value, Cursor.passes_of_peek seen, accepted, rfl⟩
  · rintro ⟨char, passes, accepted, value⟩
    refine ⟨⟨char, found.rest⟩, satisfy_eq_ok.mpr ⟨?_, accepted⟩, ?_⟩
    · exact Cursor.peek_eq_some_iff.mpr passes
    · rw [← value]

theorem single_of_passes {char : Char} (passes : cursor.Passes [char] next)
    (accepted : accepts char = true) :
    single expected accepts cursor = some (.ok ⟨.token char, next⟩) :=
  single_eq_ok.mpr ⟨char, passes, accepted, rfl⟩

theorem single_refuses (refused : cursor.NextIs fun char => !accepts char) :
    single expected accepts cursor = some (.error (.unexpected cursor expected)) :=
  map_eq_error.mpr (satisfy_eq_error.mpr ⟨refused, rfl⟩)

theorem isRecoverable_single {error : ParseError Char}
    (failed : single expected accepts cursor = some (.error error)) :
    error.isRecoverable = true := by
  rw [(satisfy_eq_error.mp (map_eq_error.mp failed)).2]
  exact isRecoverable_unexpected cursor expected

end Single

/-! ## Phrases -/

/-- In a given source, the reading reads phrases and nothing else, fails only with
mismatches, and reads every phrase that starts where fewer tokens than a bound are left
and that only such characters follow. -/
structure Recognizes (reading : Reading Char (Value Char)) (source : Source Char)
    (bound : Nat) (follows : Char → Bool) (phrase : List Char → Int64 → Prop) : Prop where
  sound : ∀ {cursor found}, cursor.source = source → reading cursor = some (.ok found) →
    ∃ text number, cursor.Passes text found.rest ∧ found.value = .int number ∧
      phrase text number
  complete : ∀ {cursor next text number}, cursor.source = source →
    cursor.remainingLength < bound → cursor.Passes text next → next.NextIs follows →
    phrase text number → reading cursor = some (.ok ⟨.int number, next⟩)
  mild : ∀ {cursor error}, cursor.source = source → reading cursor = some (.error error) →
    error.isRecoverable = true

/-! ## Operands in a row -/

/-- What an operator makes of two numbers. -/
def calculate (operator : Char) (left right : Int64) : Int64 :=
  if operator = '-' then left - right
  else if operator = '*' then left * right
  else left + right

theorem operate_pair (total : Int64) (operator : Char) (operand : Int64) :
    Combination.operate total (.pair (.token operator) (.int operand)) =
      calculate operator total operand := by
  have text (symbol : Char) : (String.singleton operator = String.singleton symbol) =
      (operator = symbol) := by
    simp [← String.toList_inj]
  show (if String.singleton operator = String.singleton '-' then _
    else if String.singleton operator = String.singleton '*' then _ else _) = _
  simp only [text]
  rfl

/-- One operand, or more with operators in between. The operators are applied from the
left. -/
inductive Chained (isOperator : Char → Bool) (operand : List Char → Int64 → Prop) :
    List Char → Int64 → Prop where
  | single {text : List Char} {number : Int64} (first : operand text number) :
      Chained isOperator operand text number
  | more {text later : List Char} {left right : Int64} {operator : Char}
      (chained : Chained isOperator operand text left) (symbol : isOperator operator = true)
      (last : operand later right) :
      Chained isOperator operand (text ++ operator :: later) (calculate operator left right)

/-- What comes behind the first operands of a row: more operators and operands, which
change the number so far. -/
inductive Continued (isOperator : Char → Bool) (operand : List Char → Int64 → Prop) :
    Int64 → List Char → Int64 → Prop where
  | nothing (number : Int64) : Continued isOperator operand number [] number
  | more {later rest : List Char} {left right number : Int64} {operator : Char}
      (symbol : isOperator operator = true) (next : operand later right)
      (continued : Continued isOperator operand (calculate operator left right) rest number) :
      Continued isOperator operand left (operator :: (later ++ rest)) number

section Chains

variable {isOperator : Char → Bool} {operand : List Char → Int64 → Prop}

theorem Continued.append {left right number : Int64} {text later : List Char} {operator : Char}
    (continued : Continued isOperator operand left text number)
    (symbol : isOperator operator = true) (last : operand later right) :
    Continued isOperator operand left (text ++ operator :: later)
      (calculate operator number right) := by
  induction continued with
  | nothing number =>
      have one := Continued.more symbol last (.nothing (calculate operator number right))
      rw [List.append_nil] at one
      exact one
  | more symbol' next continued inductionHypothesis =>
      rw [List.cons_append, List.append_assoc]
      exact .more symbol' next inductionHypothesis

/-- A row is read from its first operand on. -/
theorem Chained.split {text : List Char} {number : Int64}
    (chained : Chained isOperator operand text number) :
    ∃ first start rest, text = first ++ rest ∧ operand first start ∧
      Continued isOperator operand start rest number := by
  induction chained with
  | single first => exact ⟨_, _, [], (List.append_nil _).symm, first, .nothing _⟩
  | more chained symbol last inductionHypothesis =>
      rcases inductionHypothesis with ⟨first, start, rest, rfl, begun, continued⟩
      exact ⟨first, start, _, List.append_assoc _ _ _, begun, continued.append symbol last⟩

end Chains

/-- Reads an operator and the operand behind it. -/
def item (operator operand : Reading Char (Value Char)) : Reading Char (Value Char) :=
  .sequence .pair operator operand

/-- Reads operands in a row and folds them. -/
def chain (operator operand : Reading Char (Value Char)) : Reading Char (Value Char) :=
  .sequence Combination.fold.apply operand
    (.map (fun items : Array (Value Char) => .list items.toList)
      (.zeroOrMore .array (item operator operand)))

/-- What has been gathered behind the first operand stands for the row so far. -/
def Gathered (isOperator : Char → Bool) (operand : List Char → Int64 → Prop)
    (start : Cursor Char) (first : Int64) (items : Array (Value Char))
    (cursor : Cursor Char) : Prop :=
  ∃ text, start.Passes text cursor ∧
    Chained isOperator operand text (items.toList.foldl Combination.operate first)

namespace Recognizes

variable {expected : String} {isOperator follows : Char → Bool}
variable {operand : List Char → Int64 → Prop} {reading : Reading Char (Value Char)}
variable {source : Source Char} {bound : Nat} {start cursor next : Cursor Char}

/-- Phrases may be described in another way. -/
theorem congr (recognizes : reading.Recognizes source bound follows operand)
    {phrase : List Char → Int64 → Prop}
    (same : ∀ text number, phrase text number ↔ operand text number) :
    reading.Recognizes source bound follows phrase := by
  have equal : phrase = operand := by
    funext text number
    exact propext (same text number)
  rw [equal]
  exact recognizes

/-- An operator and an operand are read one after the other. -/
theorem item_sound (recognizes : reading.Recognizes source bound follows operand)
    (place : cursor.source = source) {found : Match Char (Value Char)}
    (succeeded : item (single expected isOperator) reading cursor = some (.ok found)) :
    ∃ operator later right, cursor.Passes (operator :: later) found.rest ∧
      isOperator operator = true ∧ operand later right ∧
        found.value = .pair (.token operator) (.int right) := by
  rcases sequence_eq_ok.mp succeeded with ⟨ahead, behind, aheadRead, behindRead, rfl⟩
  rcases single_eq_ok.mp aheadRead with ⟨operator, passes, symbol, token⟩
  have behindPlace : ahead.rest.source = source := passes.source.trans place
  rcases recognizes.sound behindPlace behindRead with ⟨later, right, laterPasses, value, phrase⟩
  refine ⟨operator, later, right, passes.trans laterPasses, symbol, phrase, ?_⟩
  rw [token, value]

theorem item_mild (recognizes : reading.Recognizes source bound follows operand)
    (place : cursor.source = source) {error : ParseError Char}
    (failed : item (single expected isOperator) reading cursor = some (.error error)) :
    error.isRecoverable = true := by
  rcases sequence_eq_error.mp failed with aheadFailed | ⟨ahead, aheadRead, behindFailed⟩
  · exact isRecoverable_single aheadFailed
  · rcases single_eq_ok.mp aheadRead with ⟨operator, passes, _, _⟩
    exact recognizes.mild (passes.source.trans place) behindFailed

/-- The loop behind the first operand never fails, and gathers the row. -/
theorem gathered_of_unlimited (recognizes : reading.Recognizes source bound follows operand)
    (place : start.source = source) {first : Int64} {items : Array (Value Char)}
    {outcome : Outcome Char (Array (Value Char))}
    (gathered : Gathered isOperator operand start first items cursor)
    (ends : (item (single expected isOperator) reading).unlimited Array.push items cursor =
      some outcome) :
    ∃ found, outcome = .ok found ∧
      Gathered isOperator operand start first found.value found.rest := by
  refine unlimited_rule (Gathered isOperator operand start first)
    (fun outcome => ∃ found, outcome = .ok found ∧
      Gathered isOperator operand start first found.value found.rest)
    ?mismatch ?failure ?standstill ?step gathered ends
  case mismatch =>
    intro items cursor error gathered failed recoverable
    exact ⟨_, rfl, gathered⟩
  case failure =>
    rintro items cursor error ⟨text, passes, chained⟩ failed final
    rw [recognizes.item_mild (passes.source.trans place) failed] at final
    cases final
  case standstill =>
    rintro items cursor found ⟨text, passes, chained⟩ succeeded still
    obtain ⟨operator, later, right, more, _⟩ :=
      recognizes.item_sound (passes.source.trans place) succeeded
    rw [more.beq_eq_false (List.cons_ne_nil operator later)] at still
    cases still
  case step =>
    rintro items cursor found ⟨text, passes, chained⟩ succeeded moved
    obtain ⟨operator, later, right, more, symbol, phrase, value⟩ :=
      recognizes.item_sound (passes.source.trans place) succeeded
    refine ⟨_, passes.trans more, ?_⟩
    rw [Array.toList_push, List.foldl_append, value]
    simp only [List.foldl_cons, List.foldl_nil, operate_pair]
    exact chained.more symbol phrase

theorem item_of_passes (recognizes : reading.Recognizes source bound follows operand)
    (place : cursor.source = source) (near : cursor.remainingLength < bound)
    {operator : Char} {later : List Char} {right : Int64}
    (passes : cursor.Passes (operator :: later) next) (allowed : next.NextIs follows)
    (symbol : isOperator operator = true) (phrase : operand later right) :
    item (single expected isOperator) reading cursor =
      some (.ok ⟨.pair (.token operator) (.int right), next⟩) := by
  rw [← List.singleton_append] at passes
  rcases passes.split with ⟨behind, operatorPasses, laterPasses⟩
  have behindNear : behind.remainingLength < bound :=
    Nat.lt_trans (operatorPasses.remainingLength_lt (List.cons_ne_nil _ _)) near
  have laterRead := recognizes.complete (operatorPasses.source.trans place) behindNear
    laterPasses allowed phrase
  exact sequence_eq_ok.mpr ⟨_, _, single_of_passes operatorPasses symbol, laterRead, rfl⟩

/-- What continues a row begins with an operator, unless there is nothing. -/
theorem nextIs_of_continued (apart : ∀ char, isOperator char = true → follows char = true)
    {left number : Int64} {text : List Char}
    (continued : Continued isOperator operand left text number)
    (passes : cursor.Passes text next)
    (allowed : next.NextIs fun char => follows char && !isOperator char) :
    cursor.NextIs follows := by
  cases continued with
  | nothing number =>
      rw [← passes.eq_of_nil]
      intro char head
      exact (Bool.and_eq_true_iff.mp (allowed char head)).1
  | more symbol phrase continued => exact (passes.nextIs_iff follows).mpr (apart _ symbol)

/-- The loop behind the first operand reads all that continues the row. -/
theorem unlimited_of_continued
    (recognizes : reading.Recognizes source bound follows operand)
    (apart : ∀ char, isOperator char = true → follows char = true)
    {first left number : Int64} {text : List Char}
    (continued : Continued isOperator operand left text number) {items : Array (Value Char)}
    (total : items.toList.foldl Combination.operate first = left)
    (place : cursor.source = source) (near : cursor.remainingLength < bound)
    (passes : cursor.Passes text next)
    (allowed : next.NextIs fun char => follows char && !isOperator char) :
    ∃ gathered : Array (Value Char),
      (item (single expected isOperator) reading).unlimited Array.push items cursor =
          some (.ok ⟨gathered, next⟩) ∧
        gathered.toList.foldl Combination.operate first = number := by
  induction continued generalizing items cursor with
  | nothing number =>
      cases passes.eq_of_nil
      have refused : next.NextIs fun char => !isOperator char := by
        intro char head
        exact (Bool.and_eq_true_iff.mp (allowed char head)).2
      have failed : item (single expected isOperator) reading next = some (.error _) :=
        sequence_eq_error.mpr (.inl (single_refuses refused))
      exact ⟨items, unlimited_of_error failed (recognizes.item_mild place failed), total⟩
  | @more later rest left right number operator symbol phrase continued inductionHypothesis =>
      rw [← List.cons_append] at passes
      rcases passes.split with ⟨between, itemPasses, restPasses⟩
      have nonempty := List.cons_ne_nil operator later
      have itemRead : item (single expected isOperator) reading cursor = _ :=
        recognizes.item_of_passes place near itemPasses
          (nextIs_of_continued apart continued restPasses allowed) symbol phrase
      rw [unlimited_of_ok itemRead (itemPasses.beq_eq_false nonempty)
        (itemPasses.remainingLength_lt nonempty)]
      apply inductionHypothesis _ (itemPasses.source.trans place)
        (Nat.lt_trans (itemPasses.remainingLength_lt nonempty) near) restPasses
      rw [Array.toList_push, List.foldl_append, total]
      exact operate_pair left operator right

/-- Operands in a row are recognized if each of them is, and if an operator may follow
each of them. -/
theorem chain (recognizes : reading.Recognizes source bound follows operand)
    (apart : ∀ char, isOperator char = true → follows char = true) :
    (Reading.chain (single expected isOperator) reading).Recognizes source bound
      (fun char => follows char && !isOperator char) (Chained isOperator operand) where
  sound := by
    intro cursor found place succeeded
    rcases sequence_eq_ok.mp succeeded with ⟨ahead, behind, aheadRead, behindRead, rfl⟩
    rcases recognizes.sound place aheadRead with ⟨text, first, passes, value, phrase⟩
    rcases map_eq_ok.mp behindRead with ⟨items, loopEnds, rfl⟩
    have begun : Gathered isOperator operand cursor first #[] ahead.rest :=
      ⟨text, passes, .single phrase⟩
    obtain ⟨_, same, rowText, rowPasses, chained⟩ :=
      recognizes.gathered_of_unlimited place begun loopEnds
    cases same
    refine ⟨rowText, _, rowPasses, ?_, chained⟩
    rw [value]
    rfl
  complete := by
    intro cursor next text number place near passes allowed chained
    rcases chained.split with ⟨firstText, first, rest, rfl, phrase, continued⟩
    rcases passes.split with ⟨between, firstPasses, restPasses⟩
    have betweenNear : between.remainingLength < bound := by
      have remainders := firstPasses.remainingLength_eq
      omega
    have firstRead := recognizes.complete place near firstPasses
      (nextIs_of_continued apart continued restPasses allowed) phrase
    have nothing : (#[] : Array (Value Char)).toList.foldl Combination.operate first = first :=
      rfl
    obtain ⟨items, loopEnds, total⟩ :=
      recognizes.unlimited_of_continued apart continued nothing
        (firstPasses.source.trans place) betweenNear restPasses allowed
    refine sequence_eq_ok.mpr ⟨_, _, firstRead, map_eq_ok.mpr ⟨_, loopEnds, rfl⟩, ?_⟩
    rw [← total]
    rfl
  mild := by
    intro cursor error place failed
    rcases sequence_eq_error.mp failed with aheadFailed | ⟨ahead, aheadRead, behindFailed⟩
    · exact recognizes.mild place aheadFailed
    · rcases recognizes.sound place aheadRead with ⟨text, first, passes, _, phrase⟩
      have begun : Gathered isOperator operand cursor first #[] ahead.rest :=
        ⟨text, passes, .single phrase⟩
      obtain ⟨found, impossible, _⟩ :=
        recognizes.gathered_of_unlimited place begun (map_eq_error.mp behindFailed)
      cases impossible

/-- All of a source is read if it is a phrase, as the number that the phrase denotes. -/
theorem whole (recognizes : reading.Recognizes source bound follows operand)
    (near : (Cursor.start source).remainingLength < bound) {outcome : Outcome Char (Value Char)}
    (ends : sequence (fun output _ => output) reading eof (.start source) = some outcome) :
    (∀ number, (∃ found, outcome = .ok found ∧ found.value = .int number) ↔
        operand source.tokens.toList number) ∧
      ((∃ found, outcome = .ok found) ↔ ∃ number, operand source.tokens.toList number) ∧
      ∀ error, outcome = .error error → error.isRecoverable = true := by
  have sound (found) (succeeded : outcome = .ok found) :
      ∃ number, found.value = .int number ∧ operand source.tokens.toList number := by
    rw [succeeded] at ends
    rcases sequence_eq_ok.mp ends with ⟨ahead, _, read, ended, rfl⟩
    rcases recognizes.sound rfl read with ⟨text, number, passes, value, phrase⟩
    have whole := passes.remaining
    rw [(eof_eq_ok.mp ended).1, List.append_nil, Cursor.remaining_start] at whole
    rw [whole]
    exact ⟨number, value, phrase⟩
  have complete (number) (phrase : operand source.tokens.toList number) :
      ∃ found, outcome = .ok found ∧ found.value = .int number := by
    rcases (Cursor.start source).passes_remaining with ⟨last, passes, nothing⟩
    rw [Cursor.remaining_start] at passes
    have read := recognizes.complete rfl near passes (Cursor.nextIs_of_ended nothing) phrase
    have both : sequence (fun output _ => output) reading eof (.start source) =
        some (.ok ⟨.int number, last⟩) :=
      sequence_eq_ok.mpr ⟨_, _, read, eof_eq_ok.mpr ⟨nothing, rfl⟩, rfl⟩
    cases ends.symm.trans both
    exact ⟨_, rfl, rfl⟩
  refine ⟨?_, ?_, ?_⟩
  · intro number
    constructor
    · rintro ⟨found, succeeded, value⟩
      rcases sound found succeeded with ⟨other, otherValue, phrase⟩
      cases value.symm.trans otherValue
      exact phrase
    · exact complete number
  · constructor
    · rintro ⟨found, succeeded⟩
      rcases sound found succeeded with ⟨number, _, phrase⟩
      exact ⟨number, phrase⟩
    · rintro ⟨number, phrase⟩
      rcases complete number phrase with ⟨found, succeeded, _⟩
      exact ⟨found, succeeded⟩
  · rintro error rfl
    rcases sequence_eq_error.mp ends with failed | ⟨ahead, _, failed⟩
    · exact recognizes.mild rfl failed
    · exact isRecoverable_eof failed

end Recognizes

end Reading

end Descent
