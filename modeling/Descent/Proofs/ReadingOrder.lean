import Descent.Error.Location
import Descent.Token.Scalar
import Mathlib.Data.Prod.Lex
import Mathlib.Order.Interval.Set.Defs

/-!
# Reading order

Places of a source come one behind the other, and so do their locations: line by line, and along
each line. The two orders are one, because every token leads to a later location. A newline takes
the offset back to zero, but only on the next line.

So it makes no difference whether errors of one source are compared by their positions, by what is
left behind them or by their locations, and a location tells its place: as many tokens behind the
first one of its line as the offset says.
-/

namespace Descent

namespace Location

/-! ## Locations in order -/

/-- Lines count before offsets. -/
def key (location : Location) : Nat ×ₗ Nat :=
  toLex (location.line, location.offset)

theorem key_injective : Function.Injective key := by
  rintro ⟨line, offset⟩ ⟨otherLine, otherOffset⟩ same
  cases same
  rfl

/-- Locations in reading order: line by line, and along each line. -/
instance : LinearOrder Location :=
  .lift' key key_injective

theorem lt_iff {first second : Location} :
    first < second ↔
      first.line < second.line ∨ first.line = second.line ∧ first.offset < second.offset :=
  Prod.Lex.lt_iff

variable {τ : Type} [Token τ] {tokens : List τ} {position other : Nat}

/-- Every token leads to a later location. -/
theorem lt_after (location : Location) (token : τ) : location < location.after token := by
  rw [lt_iff, after]
  split
  · exact .inl (Nat.lt_succ_self _)
  · exact .inr ⟨rfl, Nat.lt_succ_self _⟩

/-- Later places have later locations. -/
theorem locate_lt_locate (before : position < other) (within : other ≤ tokens.length) :
    locate tokens position < locate tokens other := by
  induction before with
  | refl =>
      rw [locate_succ within]
      exact lt_after _ _
  | step before inductionHypothesis =>
      have earlier := inductionHypothesis (Nat.le_of_succ_le within)
      rw [locate_succ within]
      exact lt_trans earlier (lt_after _ _)

theorem strictMonoOn_locate (tokens : List τ) :
    StrictMonoOn (locate tokens) (Set.Iic tokens.length) := by
  intro position _ other within before
  exact locate_lt_locate before within

/-! ## Lines and their first tokens -/

/-- A line starts at this index: all lines before it are ended in front of the index, the last
one of them by the very token before it. -/
structure StartsAt (tokens : List τ) (line index : Nat) : Prop where
  within : index ≤ tokens.length
  ended : (tokens.take index).countP Token.isNewline + 1 = line
  newline : ∀ token ∈ (tokens.take index).getLast?, Token.isNewline token = true

theorem startsAt_zero (tokens : List τ) : StartsAt tokens 1 0 where
  within := Nat.zero_le _
  ended := by simp
  newline := by simp

/-- Behind a newline the next line starts. -/
theorem startsAt_succ {line : Nat} (within : position < tokens.length)
    (ended : (tokens.take position).countP Token.isNewline + 1 = line)
    (newline : Token.isNewline tokens[position] = true) :
    StartsAt tokens (line + 1) (position + 1) where
  within := within
  ended := by
    rw [List.take_add_one, List.getElem?_eq_getElem within, List.countP_append, ← ended]
    simp [newline]
  newline token member := by
    rw [List.take_add_one, List.getElem?_eq_getElem within, Option.toList_some,
      List.getLast?_concat] at member
    cases member
    exact newline

/-- The number of a line is that of the newlines before it, and one more. -/
theorem line_locate (within : position ≤ tokens.length) :
    (tokens.take position).countP Token.isNewline + 1 = (locate tokens position).line := by
  induction position with
  | zero => rfl
  | succ position inductionHypothesis =>
      have here := inductionHypothesis (Nat.le_of_succ_le within)
      rw [List.take_add_one, List.getElem?_eq_getElem within, locate_succ within, after,
        List.countP_append, Option.toList_some, List.countP_singleton]
      split
      · rw [Nat.add_right_comm, here]
      · exact here

/-- Each place is as far behind the start of its line as its offset says. -/
theorem startsAt_locate (within : position ≤ tokens.length) :
    ∃ index, StartsAt tokens (locate tokens position).line index ∧
      position = index + (locate tokens position).offset := by
  induction position with
  | zero => exact ⟨0, startsAt_zero tokens, rfl⟩
  | succ position inductionHypothesis =>
      obtain ⟨index, starts, place⟩ := inductionHypothesis (Nat.le_of_succ_le within)
      rw [locate_succ within, after]
      split
      case isTrue newline =>
        exact ⟨position + 1, startsAt_succ within (line_locate (Nat.le_of_succ_le within)) newline,
          rfl⟩
      case isFalse inside => exact ⟨index, starts, congrArg (· + 1) place⟩

/-- Where a line starts, more lines are ended than in front of any place before. -/
theorem StartsAt.countP_lt {line index earlier : Nat} (starts : StartsAt tokens line index)
    (before : earlier < index) :
    (tokens.take earlier).countP Token.isNewline < (tokens.take index).countP Token.isNewline := by
  obtain ⟨previous, rfl⟩ := Nat.exists_eq_add_of_lt before
  have within : earlier + previous < tokens.length := starts.within
  have shape : tokens.take (earlier + previous + 1) =
      tokens.take (earlier + previous) ++ [tokens[earlier + previous]] := by
    rw [List.take_add_one, List.getElem?_eq_getElem within]
    rfl
  have newline : Token.isNewline tokens[earlier + previous] = true := by
    apply starts.newline
    rw [shape, List.getLast?_concat]
    rfl
  have fewer : (tokens.take earlier).countP Token.isNewline ≤
      (tokens.take (earlier + previous)).countP Token.isNewline :=
    (List.take_sublist_take_left (Nat.le_add_right _ _)).countP_le
  rw [shape, List.countP_append, List.countP_singleton, if_pos newline]
  exact Nat.lt_succ_of_le fewer

/-- No line starts twice. -/
theorem StartsAt.unique {line index otherIndex : Nat} (starts : StartsAt tokens line index)
    (otherStarts : StartsAt tokens line otherIndex) : otherIndex = index := by
  have ended := starts.ended
  have otherEnded := otherStarts.ended
  rcases Nat.lt_trichotomy otherIndex index with before | same | behind
  · have fewer := starts.countP_lt before
    omega
  · exact same
  · have fewer := otherStarts.countP_lt behind
    omega

end Location

namespace ParseError

variable {τ : Type} {first second : ParseError τ}

theorem position_add_remainingLength (error : ParseError τ) :
    error.position + error.remainingLength = error.remainder.length :=
  error.remainder.position_add_remainingLength

section Same

variable (same : second.remainder.source = first.remainder.source)

include same

theorem position_le_length : second.position ≤ first.remainder.source.tokens.toList.length := by
  rw [← same]
  exact second.remainder.position_le

theorem remainingLength_lt_iff :
    second.remainingLength < first.remainingLength ↔ first.position < second.position := by
  have total := first.position_add_remainingLength
  have otherTotal := second.position_add_remainingLength
  have length : second.remainder.length = first.remainder.length := by
    rw [Cursor.length, Cursor.length, same]
  omega

variable [Token τ]

theorem location_eq_locate :
    second.location = .locate first.remainder.source.tokens.toList second.position := by
  rw [location, same]

theorem location_lt_iff : first.location < second.location ↔ first.position < second.position := by
  rw [location_eq_locate same, location]
  exact (Location.strictMonoOn_locate _).lt_iff_lt first.remainder.position_le
    (position_le_length same)

/-- Of two failures in one source the one is picked whose location is later. -/
theorem location_furthest :
    (first.furthest second).location = max first.location second.location := by
  rcases Nat.lt_or_ge second.position first.position with further | further
  · have later := (location_lt_iff same.symm).mpr further
    rw [furthest_of_lt ((remainingLength_lt_iff same.symm).mpr further), max_eq_left later.le]
  · have later := not_lt.mp (mt (location_lt_iff same.symm).mp (Nat.not_lt.mpr further))
    have fewer := not_lt.mp (mt (remainingLength_lt_iff same.symm).mp (Nat.not_lt.mpr further))
    rw [furthest_of_le fewer, max_eq_right later]

end Same

variable [Token τ]

/-- Errors in one source are in the same order by position, by the number of tokens left, the
other way round, and by location. Errors at one location are at one position, and the failure that
got further is at the later of two locations. The position is found again by going as many tokens
on from the start of the line as the offset says, and each line has one start. -/
theorem location_order (same : second.remainder.source = first.remainder.source) :
    (first.position < second.position ↔ second.remainingLength < first.remainingLength) ∧
    (first.position < second.position ↔ first.location < second.location) ∧
    (first.position = second.position ↔ first.location = second.location) ∧
    (first.furthest second).location = max first.location second.location ∧
    ∃ index, Location.StartsAt first.remainder.source.tokens.toList first.location.line index ∧
      (∀ other, Location.StartsAt first.remainder.source.tokens.toList first.location.line other →
        other = index) ∧
      first.position = index + first.location.offset := by
  refine ⟨(remainingLength_lt_iff same).symm, (location_lt_iff same).symm, ?equal,
    location_furthest same, ?start⟩
  case equal =>
    rw [location_eq_locate same, location]
    constructor
    · intro equal
      rw [equal]
    · exact (Location.strictMonoOn_locate _).injOn first.remainder.position_le
        (position_le_length same)
  case start =>
    have within : first.position ≤ first.remainder.source.tokens.toList.length :=
      first.remainder.position_le
    obtain ⟨index, starts, place⟩ := Location.startsAt_locate within
    exact ⟨index, starts, fun _ => starts.unique, place⟩

/-- A newline is before the token behind it, which has the smaller offset. -/
theorem location_order_newline :
    ∃ first second : ParseError Char, second.remainder.source = first.remainder.source ∧
      first.location = ⟨1, 2⟩ ∧ second.location = ⟨2, 0⟩ ∧ first.location < second.location ∧
      (first.furthest second).location = second.location := by
  let cursor := Cursor.start ⟨0, #['a', 'b', '\n', 'c']⟩
  let first : ParseError Char := .unexpected (cursor.advance 2) "b"
  let second : ParseError Char := .unexpected (cursor.advance 3) "d"
  have same : second.remainder.source = first.remainder.source := rfl
  obtain ⟨_, ordered, _, picked, _⟩ := location_order same
  have earlier : first.location < second.location := ordered.mp (by decide)
  exact ⟨first, second, same, rfl, rfl, earlier, picked.trans (max_eq_right earlier.le)⟩

end ParseError

end Descent
