import Descent.Error.Basic

/-!
# Bounds of a repetition

How often a parser is to match, at least and at most. Bounds are plain 64-bit
numbers and may make no sense; that is found out when a repetition starts, and
reported as an error there.

A machine counts matches in words. A count that is no word is replaced by the greatest
one, which does not happen where words have 64 bits or more.
-/

namespace Descent

/-- The least and the greatest number of matches. Without an upper bound a
repetition goes on as long as it can. -/
structure Bounds where
  lower : Int64
  upper : Option Int64
  deriving DecidableEq

/-- Bounds that make sense: so many matches are required, and so many more are
taken if they are there. Without a limit on the latter, all that are there. -/
structure Quota where
  required : Nat
  extra : Option Nat
  deriving DecidableEq, Repr

namespace Bounds

/-- One number of matches and no other. -/
def exactly (count : Int64) : Bounds :=
  ⟨count, some count⟩

/-- Whether the bounds allow just the number of matches that they require. -/
def isExact (bounds : Bounds) : Bool :=
  bounds == exactly bounds.lower

/-- A count as a word of so many bits, or the greatest word if it is none. -/
def toWord (bits : Nat) (count : Int64) : Nat :=
  if 0 ≤ count ∧ count.toNatClampNeg < Nat.pow 2 bits then count.toNatClampNeg
  else Nat.pow 2 bits - 1

/-- What the bounds ask for, in words of so many bits. A negative lower bound is refused
before the upper bound is looked at. -/
def quota (bounds : Bounds) (bits : Nat := 64) : Except Cause Quota :=
  if bounds.lower < 0 then
    .error (.negativeCount bounds.lower)
  else
    match bounds.upper with
    | none => .ok ⟨toWord bits bounds.lower, none⟩
    | some upper =>
        if upper < bounds.lower then
          .error (.emptyRange bounds.lower upper)
        else
          .ok ⟨toWord bits bounds.lower, some (toWord bits (upper - bounds.lower))⟩

theorem toWord_of_nonneg {bits : Nat} (wide : 64 ≤ bits) {count : Int64}
    (positive : 0 ≤ count) : toWord bits count = count.toNatClampNeg := by
  have room : 0x10000000000000000 ≤ Nat.pow 2 bits := Nat.pow_le_pow_right Nat.two_pos wide
  have greatest := count.toInt_lt
  have fits : count.toNatClampNeg < Nat.pow 2 bits := by
    show count.toInt.toNat < Nat.pow 2 bits
    omega
  rw [toWord, if_pos ⟨positive, fits⟩]

/-- Of two bounds that make sense the lower one can be taken from the upper one. -/
theorem toInt_sub_of_le {lower upper : Int64} (least : 0 ≤ lower) (proper : lower ≤ upper) :
    (upper - lower).toInt = upper.toInt - lower.toInt := by
  have positive := Int64.le_iff_toInt_le.mp least
  have order := Int64.le_iff_toInt_le.mp proper
  have greatest := upper.toInt_lt
  rw [Int64.toInt_zero] at positive
  rw [Int64.toInt_sub]
  exact Int.bmod_eq_of_le (by omega) (by omega)

/-- What is left then is not negative. -/
theorem sub_nonneg_of_le {lower upper : Int64} (least : 0 ≤ lower) (proper : lower ≤ upper) :
    0 ≤ upper - lower := by
  have apart := toInt_sub_of_le least proper
  rw [Int64.le_iff_toInt_le] at proper
  rw [Int64.le_iff_toInt_le, Int64.toInt_zero, apart]
  omega

theorem quota_of_neg {bounds : Bounds} (negative : bounds.lower < 0) :
    bounds.quota = .error (.negativeCount bounds.lower) := by
  simp [quota, negative]

theorem quota_of_lt {bounds : Bounds} {upper : Int64} (sensible : ¬ bounds.lower < 0)
    (bounded : bounds.upper = some upper) (empty : upper < bounds.lower) :
    bounds.quota = .error (.emptyRange bounds.lower upper) := by
  simp [quota, sensible, bounded, empty]

theorem quota_of_none {bounds : Bounds} (sensible : ¬ bounds.lower < 0)
    (unbounded : bounds.upper = none) :
    bounds.quota = .ok ⟨bounds.lower.toNatClampNeg, none⟩ := by
  have least := Int64.not_lt.mp sensible
  simp [quota, sensible, unbounded, toWord_of_nonneg (Nat.le_refl 64) least]

theorem quota_of_le {bounds : Bounds} {upper : Int64} (sensible : ¬ bounds.lower < 0)
    (bounded : bounds.upper = some upper) (proper : ¬ upper < bounds.lower) :
    bounds.quota = .ok ⟨bounds.lower.toNatClampNeg,
      some (upper - bounds.lower).toNatClampNeg⟩ := by
  have least := Int64.not_lt.mp sensible
  have more := sub_nonneg_of_le least (Int64.not_lt.mp proper)
  simp [quota, sensible, bounded, proper, toWord_of_nonneg (Nat.le_refl 64) least,
    toWord_of_nonneg (Nat.le_refl 64) more]

/-- In all words that are wide enough the bounds ask for the same. -/
theorem quota_of_wide (bounds : Bounds) {bits : Nat} (wide : 64 ≤ bits) :
    bounds.quota bits = bounds.quota := by
  by_cases negative : bounds.lower < 0
  · rw [quota, quota, if_pos negative, if_pos negative]
  rw [quota, quota, if_neg negative, if_neg negative]
  have least := Int64.not_lt.mp negative
  have same (count : Int64) (positive : 0 ≤ count) : toWord bits count = toWord 64 count := by
    rw [toWord_of_nonneg wide positive, toWord_of_nonneg (Nat.le_refl 64) positive]
  cases bounds.upper with
  | none => simp only [same _ least]
  | some upper =>
      by_cases empty : upper < bounds.lower
      · simp only [if_pos empty]
      · have more := sub_nonneg_of_le least (Int64.not_lt.mp empty)
        simp only [if_neg empty, same _ least, same _ more]

/-- The bounds in full. -/
def inspect (bounds : Bounds) : String :=
  let upper := match bounds.upper with
    | some upper => "Some(" ++ toString upper ++ ")"
    | none => "None"
  "Bounds \x7b lower: " ++ toString bounds.lower ++ ", upper: " ++ upper ++ " \x7d"

end Bounds

end Descent
