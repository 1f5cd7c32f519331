import Descent.Text.Quoted
import Descent.Token.Basic

/-!
# Sources and cursors

A source is a sequence of tokens with an identity; a cursor is a place in one
source. Every operation on a cursor makes a new one, so a parser that has read
ahead can always go back by using the cursor it started from. A cursor never
lies past the end of its source: steps that would go further stop there.
-/

namespace Descent

/-- A sequence of tokens. Its identity tells it from other sources that happen to
hold the same tokens. -/
structure Source (τ : Type) where
  identity : Nat
  tokens : Array τ

/-- A place in a source: as many tokens lie before it as its position says. -/
@[ext]
structure Cursor (τ : Type) where
  source : Source τ
  position : Nat
  position_le : position ≤ source.tokens.size

namespace Cursor

variable {τ : Type}

/-- The start of a source. -/
def start (source : Source τ) : Cursor τ :=
  ⟨source, 0, Nat.zero_le _⟩

@[simp] theorem source_start (source : Source τ) : (start source).source = source := rfl

@[simp] theorem position_start (source : Source τ) : (start source).position = 0 := rfl

/-- The number of tokens in the source, read or not. -/
def length (cursor : Cursor τ) : Nat :=
  cursor.source.tokens.size

/-- A number of tokens further on, or the end if fewer are left. -/
def advance (cursor : Cursor τ) (steps : Nat) : Cursor τ :=
  ⟨cursor.source, min (cursor.position + steps) cursor.source.tokens.size,
    Nat.min_le_right _ _⟩

@[simp] theorem source_advance (cursor : Cursor τ) (steps : Nat) :
    (cursor.advance steps).source = cursor.source := rfl

@[simp] theorem position_advance (cursor : Cursor τ) (steps : Nat) :
    (cursor.advance steps).position = min (cursor.position + steps) cursor.length := rfl

@[simp] theorem length_advance (cursor : Cursor τ) (steps : Nat) :
    (cursor.advance steps).length = cursor.length := rfl

/-- The next token and the cursor behind it, unless at the end. -/
def peek (cursor : Cursor τ) : Option (τ × Cursor τ) :=
  if within : cursor.position < cursor.source.tokens.size then
    some (cursor.source.tokens[cursor.position],
      ⟨cursor.source, cursor.position + 1, within⟩)
  else
    none

theorem peek_of_lt {cursor : Cursor τ}
    (within : cursor.position < cursor.source.tokens.size) :
    cursor.peek = some (cursor.source.tokens[cursor.position],
      ⟨cursor.source, cursor.position + 1, within⟩) := by
  simp [peek, within]

theorem peek_eq_none_iff {cursor : Cursor τ} :
    cursor.peek = none ↔ cursor.length ≤ cursor.position := by
  simp [peek, length]

theorem source_of_peek {cursor next : Cursor τ} {token : τ}
    (seen : cursor.peek = some (token, next)) : next.source = cursor.source := by
  unfold peek at seen
  split at seen
  · cases seen
    rfl
  · cases seen

theorem position_of_peek {cursor next : Cursor τ} {token : τ}
    (seen : cursor.peek = some (token, next)) : next.position = cursor.position + 1 := by
  unfold peek at seen
  split at seen
  · cases seen
    rfl
  · cases seen

/-- Whether no token is left. -/
def atEnd (cursor : Cursor τ) : Bool :=
  cursor.length ≤ cursor.position

theorem atEnd_iff {cursor : Cursor τ} :
    cursor.atEnd = true ↔ cursor.length ≤ cursor.position := by
  simp [atEnd]

/-- How many tokens are left. -/
def remainingLength (cursor : Cursor τ) : Nat :=
  cursor.length - cursor.position

theorem position_le_length (cursor : Cursor τ) : cursor.position ≤ cursor.length :=
  cursor.position_le

theorem position_add_remainingLength (cursor : Cursor τ) :
    cursor.position + cursor.remainingLength = cursor.length :=
  Nat.add_sub_cancel' cursor.position_le

/-- The next tokens, as many as asked for or as there are. -/
def window (cursor : Cursor τ) (count : Nat) : List τ :=
  (cursor.source.tokens.extract cursor.position (cursor.position + count)).toList

theorem window_eq (cursor : Cursor τ) (count : Nat) :
    cursor.window count =
      (cursor.source.tokens.toList.drop cursor.position).take count := by
  simp [window]

theorem length_window (cursor : Cursor τ) (count : Nat) :
    (cursor.window count).length = min count cursor.remainingLength := by
  simp [window_eq, remainingLength, length]

/-- The tokens that are left. -/
def remaining (cursor : Cursor τ) : List τ :=
  cursor.window cursor.remainingLength

theorem remaining_eq (cursor : Cursor τ) :
    cursor.remaining = cursor.source.tokens.toList.drop cursor.position := by
  rw [remaining, window_eq]
  exact List.take_of_length_le (by simp [remainingLength, length])

/-- Cursors are equal if they are at the same position of the same source. Two
sources are never the same for holding equal tokens. -/
instance : BEq (Cursor τ) where
  beq left right :=
    left.source.identity == right.source.identity && left.position == right.position

theorem beq_iff {left right : Cursor τ} :
    (left == right) = true ↔
      left.source.identity = right.source.identity ∧ left.position = right.position := by
  show (_ && _) = true ↔ _
  simp

/-- On one source, equality of cursors is identity. -/
theorem beq_iff_eq_of_source {left right : Cursor τ} (same : left.source = right.source) :
    (left == right) = true ↔ left = right := by
  rw [beq_iff]
  constructor
  · intro ⟨_, position⟩
    exact Cursor.ext same position
  · intro equal
    exact ⟨by rw [equal], by rw [equal]⟩

/-- The cursor in full: its position and the text of what is left. -/
def inspect [Token τ] (cursor : Cursor τ) : String :=
  "Cursor \x7b position: " ++ toString cursor.position ++ ", remaining: " ++
    Text.quoted (Token.describeAll cursor.remaining) ++ " \x7d"

end Cursor

end Descent
