import Descent.Cursor.Basic

/-!
# Passages

A passage is the text between two cursors in one source. What a parser has read is a
passage, and a text that is to be read is one before it is read. So the tokens of a
source can be spoken of as lists, while parsers go from cursor to cursor.
-/

namespace Descent.Cursor

variable {τ : Type} {cursor between next : Cursor τ} {text later : List τ}

theorem length_remaining (cursor : Cursor τ) :
    cursor.remaining.length = cursor.remainingLength := by
  rw [remaining, length_window, Nat.min_self]

theorem remaining_start (source : Source τ) :
    (start source).remaining = source.tokens.toList := by
  rw [remaining_eq, position_start, source_start, List.drop_zero]

/-- This text, and no more, stands between the cursors. -/
structure Passes (cursor : Cursor τ) (text : List τ) (next : Cursor τ) : Prop where
  source : next.source = cursor.source
  remaining : cursor.remaining = text ++ next.remaining

namespace Passes

theorem refl (cursor : Cursor τ) : cursor.Passes [] cursor := ⟨rfl, rfl⟩

theorem trans (near : cursor.Passes text between) (far : between.Passes later next) :
    cursor.Passes (text ++ later) next where
  source := far.source.trans near.source
  remaining := by rw [near.remaining, far.remaining, List.append_assoc]

theorem remainingLength_eq (passes : cursor.Passes text next) :
    cursor.remainingLength = text.length + next.remainingLength := by
  rw [← length_remaining, ← length_remaining, passes.remaining, List.length_append]

theorem position_eq (passes : cursor.Passes text next) :
    next.position = cursor.position + text.length := by
  have lengths : next.length = cursor.length := by rw [length, length, passes.source]
  have remainders := passes.remainingLength_eq
  have within := cursor.position_add_remainingLength
  have nextWithin := next.position_add_remainingLength
  omega

/-- What stands between two cursors stands in their source. -/
theorem tokens_eq (passes : cursor.Passes text next) :
    cursor.source.tokens.toList =
      cursor.source.tokens.toList.take cursor.position ++ text ++ next.remaining := by
  rw [List.append_assoc, ← passes.remaining, remaining_eq, List.take_append_drop]

/-- A cursor and a text determine where the text ends. -/
theorem eq_of (passes : cursor.Passes text next) (other : cursor.Passes text between) :
    next = between := by
  apply Cursor.ext
  · rw [passes.source, other.source]
  · rw [passes.position_eq, other.position_eq]

theorem eq_of_nil (passes : cursor.Passes [] next) : next = cursor :=
  passes.eq_of (.refl cursor)

/-- A text in two parts ends where its second part does. -/
theorem split (passes : cursor.Passes (text ++ later) next) :
    ∃ between, cursor.Passes text between ∧ between.Passes later next := by
  have remainders := passes.remainingLength_eq
  rw [List.length_append] at remainders
  have within := cursor.position_add_remainingLength
  have passed : (cursor.advance text.length).remaining = later ++ next.remaining := by
    have position : (cursor.advance text.length).position = cursor.position + text.length := by
      rw [position_advance]
      omega
    rw [remaining_eq, position, source_advance, ← List.drop_drop, ← remaining_eq,
      passes.remaining, List.append_assoc, List.drop_left]
  refine ⟨cursor.advance text.length, ⟨rfl, ?_⟩, ⟨passes.source, passed⟩⟩
  rw [passes.remaining, passed, List.append_assoc]

/-- Fewer tokens are left behind a text that is not empty. -/
theorem remainingLength_lt (passes : cursor.Passes text next) (nonempty : text ≠ []) :
    next.remainingLength < cursor.remainingLength := by
  have remainders := passes.remainingLength_eq
  have positive := List.length_pos_iff.mpr nonempty
  omega

theorem beq_eq_false (passes : cursor.Passes text next) (nonempty : text ≠ []) :
    (next == cursor) = false := by
  rw [Bool.eq_false_iff]
  intro still
  rw [beq_iff_eq_of_source passes.source] at still
  have shorter := passes.remainingLength_lt nonempty
  rw [still] at shorter
  exact Nat.lt_irrefl _ shorter

end Passes

/-- All that is left stands before the end of the source. -/
theorem passes_remaining (cursor : Cursor τ) :
    ∃ last, cursor.Passes cursor.remaining last ∧ last.remaining = [] := by
  have whole : (cursor.advance cursor.remainingLength).remaining = [] := by
    have within := cursor.position_add_remainingLength
    have last := (cursor.advance cursor.remainingLength).position_add_remainingLength
    rw [← List.length_eq_zero_iff, length_remaining]
    rw [position_advance, length_advance] at last
    omega
  refine ⟨cursor.advance cursor.remainingLength, ⟨rfl, ?_⟩, whole⟩
  rw [whole, List.append_nil]

theorem passes_of_peek {token : τ} (seen : cursor.peek = some (token, next)) :
    cursor.Passes [token] next := by
  refine ⟨source_of_peek seen, ?_⟩
  simp only [peek] at seen
  split at seen
  · next within =>
      cases seen
      rw [remaining_eq, remaining_eq, List.drop_eq_getElem_cons (by simpa using within)]
      rfl
  · cases seen

theorem atEnd_iff_remaining : cursor.atEnd = true ↔ cursor.remaining = [] := by
  rw [atEnd_iff, ← List.length_eq_zero_iff, length_remaining, remainingLength]
  omega

theorem peek_eq_none_iff_remaining : cursor.peek = none ↔ cursor.remaining = [] := by
  rw [peek_eq_none_iff, ← List.length_eq_zero_iff, length_remaining, remainingLength]
  omega

/-- The next token is the first of those that are left. -/
theorem peek_eq_some_iff {token : τ} :
    cursor.peek = some (token, next) ↔ cursor.Passes [token] next := by
  constructor
  · exact passes_of_peek
  · intro passes
    cases seen : cursor.peek with
    | none =>
        have nothing := peek_eq_none_iff_remaining.mp seen
        rw [passes.remaining] at nothing
        cases nothing
    | some found =>
        rcases found with ⟨first, behind⟩
        have other := passes_of_peek seen
        have same := passes.remaining.symm.trans other.remaining
        cases (List.cons.inj same).1
        rw [passes.eq_of other]

/-- The next token is the first of those that are left, and behind it is the cursor one token
further on. -/
theorem peek_eq (cursor : Cursor τ) :
    cursor.peek = cursor.remaining.head?.map fun token => (token, cursor.advance 1) := by
  cases seen : cursor.peek with
  | none =>
      rw [peek_eq_none_iff_remaining.mp seen]
      rfl
  | some found =>
      rcases found with ⟨token, next⟩
      have passes := passes_of_peek seen
      have position := passes.position_eq
      have within := next.position_le
      have nextLength : next.source.tokens.size = cursor.length := by
        rw [passes.source]
        rfl
      have same : next = cursor.advance 1 := by
        apply Cursor.ext
        · exact passes.source
        · rw [position_advance, position, List.length_singleton]
          rw [position, List.length_singleton] at within
          omega
      rw [passes.remaining, same]
      rfl

theorem window_eq_take (cursor : Cursor τ) (count : Nat) :
    cursor.window count = cursor.remaining.take count := by
  rw [window_eq, remaining_eq]

theorem atEnd_eq (cursor : Cursor τ) : cursor.atEnd = cursor.remaining.isEmpty := by
  rw [Bool.eq_iff_iff, List.isEmpty_iff]
  exact atEnd_iff_remaining

end Descent.Cursor
