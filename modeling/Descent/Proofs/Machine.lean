import Descent.Error.Report
import Descent.Repetition.Span
import Descent.Run.Rules

/-!
# Parsing with machine words

Elsewhere numbers have no greatest one, a cursor comes with a proof that it lies in its source,
and a slice that goes too far is cut off. A machine has words of so many bits, its cursors may
lie anywhere, and it stops where a sum, a difference or a slice goes wrong. This module says what
such a machine does to run a parser and to report an error. Each operation that can go wrong is
one here that does.

How many bits a word has is left open, except that there are no fewer than in a bound of a
repetition.

How long texts are is left to the memory that holds them. Lengths of texts are no words here.
-/

namespace Descent

/-- What goes wrong with an operation of a machine. -/
inductive Fault where
  /-- The result needs more bits than there are. -/
  | overflow
  /-- The difference of two words is below zero. -/
  | underflow
  /-- The slice does not lie within what it is taken from. -/
  | outOfRange
  /-- The count is no word and is replaced by the greatest one. -/
  | saturated
  deriving DecidableEq, Repr

/-- What has not gone wrong goes on. -/
theorem Fault.ok_bind {α β : Type} (value : α) (next : α → Except Fault β) :
    (Except.ok value >>= next) = next value := rfl

/-! ## Words -/

/-- A machine by the width of its words. -/
class Machine where
  bits : Nat
  wide : 64 ≤ bits

/-- Words commonly have 64 bits. -/
instance : Machine := ⟨64, Nat.le_refl 64⟩

namespace Word

/-- How many words there are. -/
def size [Machine] : Nat := Nat.pow 2 Machine.bits

/-- How many things memory has room for side by side: as many as there are positive words with a
sign. -/
def longest [Machine] : Nat := Nat.pow 2 (Machine.bits - 1) - 1

theorem size_eq [Machine] : size = 2 * longest + 2 := by
  have wide := Machine.wide
  have positive : 0 < Nat.pow 2 (Machine.bits - 1) := Nat.two_pow_pos _
  have twice : size = Nat.pow 2 (Machine.bits - 1) * 2 := by
    have next : Machine.bits = Machine.bits - 1 + 1 := by omega
    exact (congrArg (Nat.pow 2) next).trans (Nat.pow_succ 2 _)
  rw [twice, longest]
  omega

/-- No count is beyond what memory has room for. -/
theorem le_longest [Machine] : 0x7FFFFFFFFFFFFFFF ≤ longest := by
  have wide : 63 ≤ Machine.bits - 1 := Nat.sub_le_sub_right Machine.wide 1
  have room : 0x8000000000000000 ≤ Nat.pow 2 (Machine.bits - 1) :=
    Nat.pow_le_pow_right Nat.two_pos wide
  rw [longest]
  omega

section Sums

variable [Machine]

/-- The sum of two words. -/
def add (left right : Nat) : Except Fault Nat :=
  if left + right < size then .ok (left + right) else .error .overflow

theorem add_of_lt {left right : Nat} (fits : left + right < size) :
    add left right = .ok (left + right) := by
  rw [add, if_pos fits]

theorem eq_of_add {left right sum : Nat} (added : add left right = .ok sum) :
    sum = left + right := by
  unfold add at added
  split at added
  · cases added
    rfl
  · cases added

end Sums

/-- The difference of two words. -/
def sub (left right : Nat) : Except Fault Nat :=
  if right ≤ left then .ok (left - right) else .error .underflow

/-- What lies between two places in a list. -/
def slice {α : Type} (items : List α) (start stop : Nat) : Except Fault (List α) :=
  if start ≤ stop ∧ stop ≤ items.length then .ok ((items.drop start).take (stop - start))
  else .error .outOfRange

/-- The difference of two counts. -/
def difference (upper lower : Int64) : Except Fault Int64 :=
  if Width.signed64.contains (upper.toInt - lower.toInt) then .ok (upper - lower)
  else .error .overflow

/-- A count as a word. -/
def ofCount [Machine] (count : Int64) : Except Fault Nat :=
  if 0 ≤ count ∧ count.toNatClampNeg < size then .ok count.toNatClampNeg else .error .saturated

end Word

variable [Machine]

/-- What bounds ask for. -/
def Bounds.wordQuota (bounds : Bounds) : Except Fault (Except Cause Quota) :=
  if bounds.lower < 0 then
    return .error (.negativeCount bounds.lower)
  else
    match bounds.upper with
    | none => do
        let required ← Word.ofCount bounds.lower
        return .ok ⟨required, none⟩
    | some upper =>
        if upper < bounds.lower then
          return .error (.emptyRange bounds.lower upper)
        else do
          let required ← Word.ofCount bounds.lower
          let extra ← Word.ofCount (← Word.difference upper bounds.lower)
          return .ok ⟨required, some extra⟩

/-! ## Cursors -/

/-- A cursor of a machine: a source, and a word that need not be a position in it. -/
structure Spot (τ : Type) where
  source : Source τ
  position : Nat

namespace Spot

variable {τ : Type}

/-- The start of a source. -/
def start (source : Source τ) : Spot τ := ⟨source, 0⟩

/-- A number of tokens further on, or the end if fewer are left. Where the sum is no word, the
greatest word takes its place. -/
def advance (spot : Spot τ) (steps : Nat) : Spot τ :=
  ⟨spot.source, min (min (spot.position + steps) (Word.size - 1)) spot.source.tokens.size⟩

/-- The next token and the cursor behind it, unless at the end. -/
def peek (spot : Spot τ) : Except Fault (Option (τ × Spot τ)) :=
  match spot.source.tokens[spot.position]? with
  | none => return none
  | some token => do
      let position ← Word.add spot.position 1
      return some (token, ⟨spot.source, position⟩)

/-- Whether no token is left. -/
def atEnd (spot : Spot τ) : Bool :=
  spot.source.tokens.size ≤ spot.position

/-- How many tokens are left, and none behind the end. -/
def remainingLength (spot : Spot τ) : Nat :=
  spot.source.tokens.size - spot.position

/-- The tokens that are left. -/
def remaining (spot : Spot τ) : Except Fault (List τ) :=
  Word.slice spot.source.tokens.toList (min spot.position spot.source.tokens.size)
    spot.source.tokens.size

instance : BEq (Spot τ) where
  beq left right :=
    left.source.identity == right.source.identity && left.position == right.position

end Spot

/-- A failure of a machine: where it was noticed, and why. -/
structure Stop (τ : Type) where
  remainder : Spot τ
  cause : Cause

namespace Stop

variable {τ : Type}

/-- The next token, or the end of input, is not what was wanted. -/
def unexpected [Token τ] (spot : Spot τ) (expected : String) : Except Fault (Stop τ) := do
  match ← spot.peek with
  | some (token, _) => return ⟨spot, .mismatch expected (Token.describe token)⟩
  | none => return ⟨spot, .mismatch expected endOfInput⟩

def isRecoverable (stop : Stop τ) : Bool :=
  match stop.cause with
  | .mismatch .. => true
  | _ => false

/-- Of two failures the one that got further into the input, and the second one where both got
equally far. -/
def furthest (first second : Stop τ) : Stop τ :=
  if second.remainder.remainingLength ≤ first.remainder.remainingLength then second else first

end Stop

/-- How a procedure ends if nothing goes wrong. -/
abbrev Ending (τ α : Type) := Except (Stop τ) (α × Spot τ)

/-- What a machine does at a cursor. It may never end, and something may go wrong. -/
def Procedure (τ α : Type) := Spot τ → Option (Except Fault (Ending τ α))

namespace Procedure

variable {τ α β γ : Type}

/-! ## Single steps -/

def pure (value : α) : Procedure τ α := fun spot => some (.ok (.ok (value, spot)))

def fail (cause : Cause) : Procedure τ α := fun spot => some (.ok (.error ⟨spot, cause⟩))

/-- Reads one token that passes a test. -/
def satisfy [Token τ] (expected : String) (accepts : τ → Bool) : Procedure τ τ := fun spot =>
  some do
    match ← spot.peek with
    | none => return .error ⟨spot, .mismatch expected endOfInput⟩
    | some (token, next) =>
        if accepts token then
          return .ok (token, next)
        else
          return .error ⟨spot, .mismatch expected (Token.describe token)⟩

/-- Reads a run of tokens. -/
def tokens [Token τ] (run : List τ) : Procedure τ (List τ) := fun spot =>
  some do
    let remaining ← spot.remaining
    let window ← Word.slice remaining 0 (min run.length remaining.length)
    if window == run then
      return .ok (run, spot.advance window.length)
    else
      let actual := if window.isEmpty then endOfInput else Token.describeAll window
      return .error ⟨spot, .mismatch (Token.describeAll run) actual⟩

/-- Succeeds at the end of input. -/
def eof [Token τ] : Procedure τ Unit := fun spot =>
  some do
    if spot.atEnd then
      return .ok ((), spot)
    else
      return .error (← Stop.unexpected spot endOfInput)

/-! ## One procedure after another -/

/-- Goes on from a success in a given way, and leaves a failure as it is. -/
def andThen (procedure : Procedure τ α)
    (next : α → Spot τ → Option (Except Fault (Ending τ β))) : Procedure τ β := fun spot =>
  match procedure spot with
  | none => none
  | some (.error fault) => some (.error fault)
  | some (.ok (.error stop)) => some (.ok (.error stop))
  | some (.ok (.ok (value, rest))) => next value rest

/-- Changes the output. -/
def map (function : α → β) (procedure : Procedure τ α) : Procedure τ β :=
  procedure.andThen fun value rest => some (.ok (.ok (function value, rest)))

/-- Goes on with a procedure that is chosen by the output. -/
def flatMap (binder : α → Procedure τ β) (procedure : Procedure τ α) : Procedure τ β :=
  procedure.andThen binder

/-- Two procedures in a row, with the outputs combined. -/
def sequence (combine : α → β → γ) (first : Procedure τ α) (second : Procedure τ β) :
    Procedure τ γ :=
  first.flatMap fun output => second.map (combine output)

/-- A second procedure at the same place if the first one fails. -/
def choice (first second : Procedure τ α) : Procedure τ α := fun spot =>
  match first spot with
  | none => none
  | some (.error fault) => some (.error fault)
  | some (.ok (.ok found)) => some (.ok (.ok found))
  | some (.ok (.error stop)) =>
      match second spot with
      | none => none
      | some (.error fault) => some (.error fault)
      | some (.ok (.ok found)) => some (.ok (.ok found))
      | some (.ok (.error other)) => some (.ok (.error (stop.furthest other)))

/-! ## Repetition -/

/-- Goes on for as long as there are matches, up to a limit if there is one, and counts them.
As everywhere there is no end in sight if a match leaves no fewer tokens and is not empty. -/
def repeating (procedure : Procedure τ α) (push : γ → α → γ) (limit : Option Nat)
    (matched : Nat) (items : γ) (spot : Spot τ) : Option (Except Fault (Ending τ γ)) :=
  if limit.all (matched < ·) then
    match procedure spot with
    | none => none
    | some (.error fault) => some (.error fault)
    | some (.ok (.error stop)) =>
        if stop.isRecoverable then some (.ok (.ok (items, spot))) else some (.ok (.error stop))
    | some (.ok (.ok (value, next))) =>
        if limit.isNone && next == spot then
          some (.ok (.error ⟨spot, .noProgress⟩))
        else
          match _counted : Word.add matched 1 with
          | .error fault => some (.error fault)
          | .ok more =>
              if limit.isSome || next.remainingLength < spot.remainingLength then
                repeating procedure push limit more (push items value) next
              else
                none
  else
    some (.ok (.ok (items, spot)))
termination_by limit.elim spot.remainingLength (· - matched)
decreasing_by
  rename_i room _ goesOn
  cases Word.eq_of_add _counted
  cases limit with
  | none => exact of_decide_eq_true goesOn
  | some limit =>
      have room : matched < limit := of_decide_eq_true room
      simp only [Option.elim_some]
      omega

/-- Every match at this place that is not empty leaves fewer tokens. -/
def ShortensAt (procedure : Procedure τ α) (spot : Spot τ) : Prop :=
  ∀ {value next}, procedure spot = some (.ok (.ok (value, next))) → (next == spot) = false →
    next.remainingLength < spot.remainingLength

section Repeating

variable {procedure : Procedure τ α} {push : γ → α → γ} {limit : Option Nat} {matched : Nat}
variable {items : γ} {spot next : Spot τ} {value : α} {stop : Stop τ}

omit [Machine] in
/-- The last case of the loop is never reached where matches leave fewer tokens. -/
theorem ShortensAt.goesOn (shortens : procedure.ShortensAt spot)
    (succeeded : procedure spot = some (.ok (.ok (value, next))))
    (moved : (limit.isNone && next == spot) = false) :
    (limit.isSome || next.remainingLength < spot.remainingLength) = true := by
  cases limit with
  | none => exact decide_eq_true (shortens succeeded moved)
  | some most => rfl

theorem repeating_of_error (room : limit.all (matched < ·) = true)
    (failed : procedure spot = some (.ok (.error stop))) :
    procedure.repeating push limit matched items spot =
      some (.ok (if stop.isRecoverable then .ok (items, spot) else .error stop)) := by
  rw [repeating, if_pos room, failed]
  cases recoverable : stop.isRecoverable <;> simp only [recoverable, Bool.false_eq_true, ↓reduceIte]

theorem repeating_of_still (succeeded : procedure spot = some (.ok (.ok (value, next))))
    (still : (next == spot) = true) :
    procedure.repeating push none matched items spot = some (.ok (.error ⟨spot, .noProgress⟩)) := by
  rw [repeating, succeeded]
  simp only [Option.all_none, Option.isNone_none, still, Bool.and_self, ↓reduceIte]

/-- The loop goes on with a match that is counted. -/
theorem repeating_of_ok (room : limit.all (matched < ·) = true)
    (succeeded : procedure spot = some (.ok (.ok (value, next))))
    (moved : (limit.isNone && next == spot) = false) (fits : matched + 1 < Word.size)
    (shortens : procedure.ShortensAt spot) :
    procedure.repeating push limit matched items spot =
      procedure.repeating push limit (matched + 1) (push items value) next := by
  rw [repeating, if_pos room, succeeded]
  simp only [moved, Bool.false_eq_true, ↓reduceIte]
  split
  · next fault overflows =>
      rw [Word.add_of_lt fits] at overflows
      cases overflows
  · next more added =>
      cases Word.eq_of_add added
      rw [if_pos (shortens.goesOn succeeded moved)]

end Repeating

/-- Takes a given number of matches and then goes on in a given way. -/
def requiring (procedure : Procedure τ α) (push : γ → α → γ)
    (onward : γ → Spot τ → Option (Except Fault (Ending τ γ))) :
    Nat → γ → Spot τ → Option (Except Fault (Ending τ γ))
  | 0, items, spot => onward items spot
  | count + 1, items, spot =>
      procedure.andThen
        (fun value rest => requiring procedure push onward count (push items value) rest) spot

/-- As many matches as there are. -/
def zeroOrMore (collector : Collector α γ) (procedure : Procedure τ α) : Procedure τ γ :=
  procedure.repeating collector.push none 0 collector.start

/-- As many matches as there are, and at least one. -/
def oneOrMore (collector : Collector α γ) (procedure : Procedure τ α) : Procedure τ γ :=
  fun spot =>
    procedure.andThen
      (fun value rest =>
        if rest == spot then
          some (.ok (.error ⟨spot, .noProgress⟩))
        else
          procedure.repeating collector.push none 0 (collector.push collector.start value) rest)
      spot

/-- As many matches as there are, within bounds. Where no more are allowed than are required,
no loop is entered behind them. -/
def count (bounds : Bounds) (collector : Collector α γ) (procedure : Procedure τ α) :
    Procedure τ γ := fun spot =>
  match bounds.wordQuota with
  | .error fault => some (.error fault)
  | .ok (.error cause) => some (.ok (.error ⟨spot, cause⟩))
  | .ok (.ok quota) =>
      let onward (items : γ) (spot : Spot τ) : Option (Except Fault (Ending τ γ)) :=
        if quota.extra = some 0 then
          some (.ok (.ok (items, spot)))
        else
          procedure.repeating collector.push quota.extra 0 items spot
      procedure.requiring collector.push onward quota.required collector.start spot

end Procedure

/-- What a machine does for a parser, given what it does for rules. -/
def Parser.procedure {τ ρ : Type} [Token τ] {Out : ρ → Type}
    (enter : (name : ρ) → Procedure τ (Out name)) :
    {α : Type} → Parser τ Out α → Procedure τ α
  | _, .satisfy _ expected accepts => .satisfy expected accepts
  | _, .tokens run => .tokens run
  | _, .eof => .eof
  | _, .pure value => .pure value
  | _, .fail expected actual => .fail (.mismatch expected actual)
  | _, .map _ function parser => .map function (procedure enter parser)
  | _, .flatMap _ binder parser =>
      .flatMap (fun output => procedure enter (binder output)) (procedure enter parser)
  | _, .sequence _ combine first second =>
      .sequence combine (procedure enter first) (procedure enter second)
  | _, .twice parser => .sequence Prod.mk (procedure enter parser) (procedure enter parser)
  | _, .choice first second => .choice (procedure enter first) (procedure enter second)
  | _, .zeroOrMore collector parser => .zeroOrMore collector (procedure enter parser)
  | _, .oneOrMore collector parser => .oneOrMore collector (procedure enter parser)
  | _, .count bounds collector parser => .count bounds collector (procedure enter parser)
  | _, .delayed _ parser => procedure enter parser
  | _, .rule name => enter name
  | _, .tap _ parser => procedure enter parser

namespace Rules

variable {τ ρ : Type} [Token τ] {Out : ρ → Type}

/-- What a machine does for a rule that may be nested to a given depth. -/
def procedureAt (rules : Rules τ Out) : Nat → (name : ρ) → Procedure τ (Out name)
  | 0, _ => fun _ => none
  | depth + 1, name => (rules.body name).procedure (procedureAt rules depth)

/-- What a machine does for a parser with these rules, nested to a given depth. -/
def procedure {α : Type} (rules : Rules τ Out) (depth : Nat) (parser : Parser τ Out α) :
    Procedure τ α :=
  parser.procedure (rules.procedureAt depth)

end Rules

/-! ## Locations and reports -/

namespace Spot

variable {τ : Type} [Token τ]

/-- Looks for lines in the tokens from an index on, until a position is reached: the number of
the line there, and where it starts. -/
def findLine (position : Nat) : (index line lineStart : Nat) → List τ → Except Fault (Nat × Nat)
  | _, line, lineStart, [] => return (line, lineStart)
  | index, line, lineStart, token :: rest =>
      if position ≤ index then
        return (line, lineStart)
      else do
        let next ← Word.add index 1
        if Token.isNewline token then
          findLine position next (← Word.add line 1) next rest
        else
          findLine position next line lineStart rest

/-- Where the place is by line and by tokens within the line. -/
def locate (spot : Spot τ) : Except Fault Location := do
  let (line, lineStart) ← findLine spot.position 0 1 0 spot.source.tokens.toList
  let offset ← Word.sub spot.position lineStart
  return ⟨line, offset⟩

end Spot

namespace Report

variable {τ : Type} [Token τ]

/-- What a report shows of one line of the source, given the number of the last line that it
shows. -/
def wordExcerpt (location : Location) (last : Nat) (line : List τ) (number : Nat) :
    Except Fault (List String) :=
  if number < location.line - 2 ∨ last < number then
    return []
  else if number = location.line then do
    let before ← Word.slice line 0 (min location.offset line.length)
    let text := Token.describeAll before
    let width :=
      if before.isEmpty || line.length ≤ location.offset then text.length
      else text.length + (Token.separator τ).length
    let caret := "".pushn ' ' ((margin number true).length + width) ++ "^--- here"
    return [margin number true ++ Token.describeAll line, caret]
  else
    return [margin number false ++ Token.describeAll line]

/-- The lines around a location among the lines from an index on. -/
def wordExcerpts (location : Location) (last : Nat) :
    (index : Nat) → List (List τ) → Except Fault (List String)
  | _, [] => return []
  | index, line :: others => do
      let number ← Word.add index 1
      let shown ← wordExcerpt location last line number
      return shown ++ (← wordExcerpts location last number others)

/-- The lines around a location, with the caret. -/
def wordContext (tokens : List τ) (location : Location) : Except Fault (List String) := do
  let last ← Word.add location.line 2
  wordExcerpts location last 0 (lines tokens)

end Report

end Descent
