import Descent.Cursor.Basic

/-!
# Parse errors

An error is a place in the source together with a cause. Most errors are
mismatches: what the parser wanted is not what stands there. The others mean
that the grammar itself asks for something impossible, and no other input would
help; a repetition or a default therefore treats the two kinds differently.
-/

namespace Descent

/-- Why a parser failed. -/
inductive Cause where
  /-- The input is not what was wanted. -/
  | mismatch (expected actual : String)
  /-- A repetition was asked for fewer than no matches. -/
  | negativeCount (count : Int64)
  /-- A repetition was asked for a number of matches from an empty range. -/
  | emptyRange (lower upper : Int64)
  /-- A repetition without an upper bound would match nothing forever. -/
  | noProgress
  deriving DecidableEq

/-- A failure: where it was noticed, and why. -/
structure ParseError (τ : Type) where
  remainder : Cursor τ
  cause : Cause

/-- What is shown in place of a token where there is none. -/
def endOfInput : String := "EOF"

namespace ParseError

variable {τ : Type}

/-- Errors are equal if they have the same cause at equal cursors. -/
instance : BEq (ParseError τ) where
  beq left right := left.remainder == right.remainder && left.cause == right.cause

/-- The input is not what was wanted, both in words. -/
def mismatch (remainder : Cursor τ) (expected actual : String) : ParseError τ :=
  ⟨remainder, .mismatch expected actual⟩

/-- The next token, or the end of input, is not what was wanted. -/
def unexpected [Token τ] (remainder : Cursor τ) (expected : String) : ParseError τ :=
  match remainder.peek with
  | some (token, _) => mismatch remainder expected (Token.describe token)
  | none => mismatch remainder expected endOfInput

/-- How many tokens lie before the place of the failure. -/
def position (error : ParseError τ) : Nat :=
  error.remainder.position

/-- How many tokens are left at the place of the failure. -/
def remainingLength (error : ParseError τ) : Nat :=
  error.remainder.remainingLength

/-- Only a mismatch says something about the input alone. -/
def isRecoverable (error : ParseError τ) : Bool :=
  match error.cause with
  | .mismatch .. => true
  | _ => false

theorem isRecoverable_iff {error : ParseError τ} :
    error.isRecoverable = true ↔
      ∃ expected actual, error.cause = .mismatch expected actual := by
  unfold isRecoverable
  cases error.cause <;> simp

theorem isRecoverable_eq_of_cause {error twin : ParseError τ} (same : twin.cause = error.cause) :
    twin.isRecoverable = error.isRecoverable := by
  rw [isRecoverable, isRecoverable, same]

/-- What would have been right, in words. -/
def expected (error : ParseError τ) : String :=
  match error.cause with
  | .mismatch expected _ => expected
  | .negativeCount _ => "a non-negative repetition count"
  | .emptyRange .. => "a non-empty repetition range"
  | .noProgress => "a repeated parser that consumes input"

/-- What was found instead, in words. -/
def actual (error : ParseError τ) : String :=
  match error.cause with
  | .mismatch _ actual => actual
  | .negativeCount count => toString count
  | .emptyRange lower upper => toString lower ++ "..=" ++ toString upper
  | .noProgress => "a zero-width match"

/-- The failure in one sentence. -/
def message (error : ParseError τ) : String :=
  match error.cause with
  | .mismatch expected actual =>
      "expected " ++ expected ++ ", found " ++ actual ++
        " at position " ++ toString error.position
  | .negativeCount count => "cannot repeat a parser " ++ toString count ++ " times"
  | .emptyRange lower upper =>
      "repetition range " ++ toString lower ++ "..=" ++ toString upper ++ " is empty"
  | .noProgress =>
      "repeated parser made no progress at position " ++ toString error.position

/-- The error in full: its cause by name, the cursor, and what the cause carries. -/
def inspect [Token τ] (error : ParseError τ) : String :=
  let record (name fields : String) : String :=
    name ++ " \x7b remainder: " ++ error.remainder.inspect ++ fields ++ " \x7d"
  match error.cause with
  | .mismatch expected actual =>
      record "Mismatch"
        (", expected: " ++ Text.quoted expected ++ ", actual: " ++ Text.quoted actual)
  | .negativeCount count => record "NegativeCount" (", count: " ++ toString count)
  | .emptyRange lower upper =>
      record "EmptyRange" (", lower: " ++ toString lower ++ ", upper: " ++ toString upper)
  | .noProgress => record "NoProgress" ""

/-- Of two failures the one that got further into the input, and the second one
where both got equally far. -/
def furthest (first second : ParseError τ) : ParseError τ :=
  if second.remainingLength ≤ first.remainingLength then second else first

theorem furthest_of_le {first second : ParseError τ}
    (further : second.remainingLength ≤ first.remainingLength) :
    first.furthest second = second := by
  simp [furthest, further]

theorem furthest_of_lt {first second : ParseError τ}
    (further : first.remainingLength < second.remainingLength) :
    first.furthest second = first := by
  simp [furthest, Nat.not_le.mpr further]

end ParseError

end Descent
