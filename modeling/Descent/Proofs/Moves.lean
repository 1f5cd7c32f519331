import Descent.Proofs.Faultless
import Descent.Proofs.Passage

/-!
# Moving on

A cursor leads to others: to a copy of itself, to one a number of tokens further on, and to the
one behind the next token. Each of these moves is an advance, and advances add up. So where moves
lead depends on how many tokens they ask for together, and neither on their order nor on how they
are split.

A machine gets to the same place. Where a sum is no word for it, the greatest word takes the place
of the sum, which is behind the end all the same.
-/

namespace Descent

variable {τ : Type}

namespace Cursor

/-- How a cursor is made from another one. -/
inductive Move where
  | copy
  | advance (steps : Nat)
  | peek
  deriving DecidableEq, Repr

namespace Move

/-- How many tokens a move asks for. -/
def count : Move → Nat
  | .copy => 0
  | .advance steps => steps
  | .peek => 1

/-- How many tokens moves ask for together. -/
def total (moves : List Move) : Nat :=
  (moves.map count).sum

@[simp] theorem total_nil : total [] = 0 := rfl

@[simp] theorem total_cons (move : Move) (moves : List Move) :
    total (move :: moves) = move.count + total moves := rfl

end Move

/-- The cursor that a move leads to. There is none behind the next token at the end. -/
def move (cursor : Cursor τ) : Move → Option (Cursor τ)
  | .copy => some cursor
  | .advance steps => some (cursor.advance steps)
  | .peek => cursor.peek.map Prod.snd

/-- The cursor that moves lead to, one after the other. -/
def walk (cursor : Cursor τ) : List Move → Option (Cursor τ)
  | [] => some cursor
  | move :: moves => (cursor.move move).bind fun next => next.walk moves

variable {cursor between next : Cursor τ} {move : Move} {moves : List Move}

/-! ## Advancing -/

@[simp] theorem advance_zero (cursor : Cursor τ) : cursor.advance 0 = cursor := by
  apply Cursor.ext
  · rfl
  · rw [position_advance, Nat.add_zero, Nat.min_eq_left cursor.position_le_length]

/-- What is cut off by the end stays cut off, whether tokens are asked for at once or not. -/
@[simp] theorem advance_advance (cursor : Cursor τ) (steps more : Nat) :
    (cursor.advance steps).advance more = cursor.advance (steps + more) := by
  apply Cursor.ext
  · rfl
  · simp only [position_advance, length_advance]
    omega

/-! ## Moves as advances -/

theorem move_eq_advance (moved : cursor.move move = some next) :
    next = cursor.advance move.count := by
  cases move with
  | copy =>
      cases moved
      exact (advance_zero cursor).symm
  | advance steps =>
      cases moved
      rfl
  | peek =>
      simp only [Cursor.move, peek_eq, Option.map_map, Option.map_eq_some_iff] at moved
      obtain ⟨_, _, rfl⟩ := moved
      rfl

/-- Moves lead to where one advance leads, by as many tokens as they ask for together. -/
theorem walk_eq_advance (walked : cursor.walk moves = some next) :
    next = cursor.advance (Move.total moves) := by
  induction moves generalizing cursor with
  | nil =>
      cases walked
      exact (advance_zero next).symm
  | cons first moves ih =>
      obtain ⟨between, moved, onward⟩ := Option.bind_eq_some_iff.mp walked
      rw [ih onward, move_eq_advance moved, advance_advance, Move.total_cons]

theorem walk_append (cursor : Cursor τ) (moves later : List Move) :
    cursor.walk (moves ++ later) = (cursor.walk moves).bind fun next => next.walk later := by
  induction moves generalizing cursor with
  | nil => rfl
  | cons first moves ih =>
      simp only [List.cons_append, walk, ih, Option.bind_assoc]

/-- One more move behind others. -/
theorem walk_onward (walked : cursor.walk moves = some between)
    (moved : between.move move = some next) : cursor.walk (moves ++ [move]) = some next := by
  rw [walk_append, walked]
  simp only [Option.bind_some, walk, moved]

/-- From the start of a source, moves lead as far as they ask for, or to the end. -/
theorem position_of_walk {source : Source τ} (walked : (start source).walk moves = some next) :
    next.source = source ∧ next.position = min source.tokens.size (Move.total moves) := by
  rw [walk_eq_advance walked]
  refine ⟨rfl, ?_⟩
  rw [position_advance, position_start, Nat.zero_add, Nat.min_comm]
  rfl

end Cursor

/-! ## Moves of a machine -/

variable [Machine]

namespace Spot

open Cursor (Move)

/-- The cursor of a machine that a move leads to. -/
def move (spot : Spot τ) : Move → Except Fault (Option (Spot τ))
  | .copy => return some spot
  | .advance steps => return some (spot.advance steps)
  | .peek => do
      let seen ← spot.peek
      return seen.map Prod.snd

/-- The cursor of a machine that moves lead to, one after the other. -/
def walk (spot : Spot τ) : List Move → Except Fault (Option (Spot τ))
  | [] => return some spot
  | move :: moves => do
      match ← spot.move move with
      | none => return none
      | some next => next.walk moves

/-- Whatever is asked of it, a machine gives the answers of the cursor, and nothing goes wrong. -/
structure Answers (spot : Spot τ) (cursor : Cursor τ) : Prop where
  position : spot.position = cursor.position
  atEnd : spot.atEnd = cursor.atEnd
  remainingLength : spot.remainingLength = cursor.remainingLength
  remaining : spot.remaining = .ok cursor.remaining
  peek : spot.peek = .ok (cursor.peek.map fun (token, next) => (token, next.spot))
  advance : ∀ steps, spot.advance steps = (cursor.advance steps).spot

end Spot

namespace Cursor

variable {cursor : Cursor τ}

theorem answers_spot (fits : cursor.length < Word.size) : cursor.spot.Answers cursor where
  position := rfl
  atEnd := rfl
  remainingLength := rfl
  remaining := cursor.remaining_spot
  peek := peek_spot_of_lt fits
  advance := advance_spot_of_lt fits

theorem move_spot (fits : cursor.length < Word.size) (move : Move) :
    cursor.spot.move move = .ok ((cursor.move move).map spot) := by
  cases move with
  | copy => rfl
  | advance steps =>
      simp only [Spot.move, advance_spot_of_lt fits]
      rfl
  | peek =>
      simp only [Spot.move, peek_spot_of_lt fits, Fault.ok_bind, Cursor.move, Option.map_map]
      rfl

/-- Moves lead a machine to where they lead the cursor, in a source whose length is a word. -/
theorem walk_spot (fits : cursor.length < Word.size) (moves : List Move) :
    cursor.spot.walk moves = .ok ((cursor.walk moves).map spot) := by
  induction moves generalizing cursor with
  | nil => rfl
  | cons first moves ih =>
      rw [Spot.walk, move_spot fits, Fault.ok_bind, walk]
      cases moved : cursor.move first with
      | none => rfl
      | some next =>
          have nextFits : next.length < Word.size := by
            rw [move_eq_advance moved, length_advance]
            exact fits
          exact ih nextFits

theorem walk_spot_start {source : Source τ} {next : Cursor τ} {moves : List Move}
    (fits : source.tokens.size < Word.size) (walked : (start source).walk moves = some next) :
    (Spot.start source).walk moves = .ok (some next.spot) := by
  have startFits : (start source).length < Word.size := fits
  show (start source).spot.walk moves = .ok (some next.spot)
  rw [walk_spot startFits, walked, Option.map_some]

end Cursor

end Descent
