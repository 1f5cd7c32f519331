import Descent.Repetition.Span

/-!
# Ranges that stop before a count

A range that stops just before a count is meant to be the range that ends with the count before
it. Both ends are brought to 64 bits, and only then is the stop lowered by one. Where the stop
has 64 bits itself, lowering it first or last makes no difference. Where it has not, the stop is
cut off to the greatest 64-bit number and lowered from there: the range ends one count too early,
and a range of one such count is empty.
-/

namespace Descent

/-- Only integers without a sign and of 64 bits go beyond the 64 bits of bounds. -/
theorem Width.greatest_le {width : Width} (narrow : width ≠ .unsigned64) :
    width.greatest ≤ Width.signed64.greatest := by
  cases width with
  | signed32 => decide
  | signed64 => decide
  | unsigned32 => decide
  | unsigned64 => exact absurd rfl narrow

theorem Width.least_le (width : Width) : Width.signed64.least ≤ width.least := by
  cases width <;> decide

namespace Span

variable {start stop : Int}

/-- What does not fit is replaced by the nearest number that does. -/
theorem toInt_saturate (value : Int) :
    (saturate value).toInt = max Width.signed64.least (min value Width.signed64.greatest) := by
  have least_kept : (Int64.ofInt Width.signed64.least).toInt = Width.signed64.least := by decide
  have greatest_kept : (Int64.ofInt Width.signed64.greatest).toInt = Width.signed64.greatest := by
    decide
  rw [saturate]
  by_cases low : value < Width.signed64.least
  · rw [if_pos low, least_kept]
    simp only [Width.least, Width.greatest] at low ⊢
    omega
  rw [if_neg low]
  by_cases high : Width.signed64.greatest < value
  · rw [if_pos high, greatest_kept]
    simp only [Width.least, Width.greatest] at high ⊢
    omega
  rw [if_neg high]
  simp only [Width.least, Width.greatest] at low high ⊢
  rw [Int64.toInt_ofInt_of_le (by omega) (by omega)]
  omega

/-- The stop is cut off before it is lowered. -/
theorem toInt_lastBefore (stop : Int) :
    (lastBefore stop).toInt =
      max Width.signed64.least ((min stop Width.signed64.greatest) - 1) := by
  rw [lastBefore, toInt_saturate, toInt_saturate]
  simp only [Width.least, Width.greatest]
  omega

/-- Lowering a stop by one before and after it is brought to 64 bits is the same exactly if it
has 64 bits. -/
theorem lastBefore_eq_iff (above : Width.signed64.least < stop) :
    lastBefore stop = saturate (stop - 1) ↔ stop ≤ Width.signed64.greatest := by
  rw [← Int64.toInt_inj, toInt_lastBefore, toInt_saturate]
  simp only [Width.least, Width.greatest] at above ⊢
  omega

/-- A range that does not start below zero is empty exactly if its last count comes before its
first one. -/
theorem quota_halfOpen_iff (least : 0 ≤ start) :
    (∃ lower upper, (halfOpen start stop).bounds.quota = .error (.emptyRange lower upper)) ↔
      lastBefore stop < saturate start := by
  have proper : ¬ (halfOpen start stop).bounds.lower < 0 := by
    rw [Int64.not_lt, Int64.le_iff_toInt_le]
    simp only [bounds, toInt_saturate, Width.least, Width.greatest, Int64.toInt_zero]
    omega
  constructor
  · rintro ⟨lower, upper, refused⟩
    apply Decidable.byContradiction
    intro order
    rw [Bounds.quota_of_le proper rfl order] at refused
    cases refused
  · intro empty
    exact ⟨_, _, Bounds.quota_of_lt proper rfl empty⟩

/-- A range of one count loses it exactly if the count behind it has more than 64 bits. -/
theorem lastBefore_succ_lt_iff (least : 0 ≤ start) :
    lastBefore (start + 1) < saturate start ↔ Width.signed64.greatest < start + 1 := by
  rw [Int64.lt_iff_toInt_lt, toInt_lastBefore, toInt_saturate]
  simp only [Width.least, Width.greatest]
  omega

theorem lastBefore_succ_eq_iff (low : Width.signed64.least ≤ start) :
    lastBefore (start + 1) = saturate start ↔ start + 1 ≤ Width.signed64.greatest := by
  have whole := lastBefore_eq_iff (Int.lt_add_one_of_le low)
  rwa [Int.add_sub_cancel] at whole

/-- For counts of any width, the range that stops before a count has the bounds of the range that
ends with the count before exactly if the stop has 64 bits with a sign. The same holds for
ranges without a start, and for a range of a single count and that count itself; if such a
count is not negative, its range is refused as empty exactly if the stop has not. Only unsigned
counts of 64 bits can have such a stop. -/
theorem bounds_halfOpen {width : Width} (fits : (halfOpen start stop).fits width = true)
    (above : width.least < stop) :
    ((halfOpen start stop).bounds = (closed start (stop - 1)).bounds ↔
      stop ≤ Width.signed64.greatest) ∧
    ((below stop).bounds = (atMost (stop - 1)).bounds ↔ stop ≤ Width.signed64.greatest) ∧
    (stop = start + 1 →
      ((halfOpen start stop).bounds = (exact start).bounds ↔
        stop ≤ Width.signed64.greatest) ∧
      (0 ≤ start →
        ((∃ lower upper,
            (halfOpen start stop).bounds.quota = .error (.emptyRange lower upper)) ↔
          Width.signed64.greatest < stop))) ∧
    (width ≠ .unsigned64 → stop ≤ Width.signed64.greatest) := by
  obtain ⟨startFits, stopFits⟩ := Bool.and_eq_true_iff.mp fits
  have low := (Width.contains_iff.mp startFits).1
  have high := (Width.contains_iff.mp stopFits).2
  have lowered := lastBefore_eq_iff (Int.lt_of_le_of_lt width.least_le above)
  refine ⟨?range, ?noStart, ?single, fun narrow => Int.le_trans high (Width.greatest_le narrow)⟩
  case range => simp only [bounds, Bounds.mk.injEq, Option.some.injEq, true_and, lowered]
  case noStart => simp only [bounds, Bounds.mk.injEq, Option.some.injEq, true_and, lowered]
  case single =>
    rintro rfl
    constructor
    · have same := lastBefore_succ_eq_iff (Int.le_trans width.least_le low)
      simp only [bounds, Bounds.exactly, Bounds.mk.injEq, Option.some.injEq, true_and, same]
    · intro least
      exact (quota_halfOpen_iff least).trans (lastBefore_succ_lt_iff least)

/-- A range of one count of 32 bits has the bounds of that count. -/
theorem bounds_halfOpen_two :
    (halfOpen 2 3).fits .signed32 = true ∧ Width.signed32.least < 3 ∧
      (halfOpen 2 3).bounds = (exact 2).bounds := by
  have fits : (halfOpen 2 3).fits .signed32 = true := by decide
  obtain ⟨_, _, single, within⟩ := bounds_halfOpen fits (by decide)
  refine ⟨fits, by decide, ?_⟩
  exact (single rfl).1.mpr (within (by decide))

/-- The range of the greatest signed count alone can be written with unsigned counts, and is
refused as empty, while the count itself and the closed range are not. -/
theorem quota_halfOpen_greatest :
    (halfOpen 0x7FFFFFFFFFFFFFFF 0x8000000000000000).fits .unsigned64 = true ∧
      Width.unsigned64.least < 0x8000000000000000 ∧
      (halfOpen 0x7FFFFFFFFFFFFFFF 0x8000000000000000).bounds ≠
        (closed 0x7FFFFFFFFFFFFFFF (0x8000000000000000 - 1)).bounds ∧
      (below 0x8000000000000000).bounds ≠ (atMost (0x8000000000000000 - 1)).bounds ∧
      (halfOpen 0x7FFFFFFFFFFFFFFF 0x8000000000000000).bounds ≠
        (exact 0x7FFFFFFFFFFFFFFF).bounds ∧
      (halfOpen 0x7FFFFFFFFFFFFFFF 0x8000000000000000).bounds.quota =
        .error (.emptyRange 0x7FFFFFFFFFFFFFFF 0x7FFFFFFFFFFFFFFE) :=
  ⟨by decide, by decide, by decide, by decide, by decide,
    Bounds.quota_of_lt (by decide) rfl (by decide)⟩

end Span

end Descent
