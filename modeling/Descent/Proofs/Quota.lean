import Descent.Repetition.Bounds

/-!
# What bounds ask for

Bounds that make sense ask for a number of matches, and for a number of further ones or for as
many as there are. Both numbers are those that the bounds are written with: nothing is cut off
on the way from 64 bits to counts, because no bound is negative and the upper one is not below
the lower one.
-/

namespace Descent

/-- The greatest number of matches in all, unless as many are taken as there are. -/
def Quota.most (quota : Quota) : Option Nat :=
  quota.extra.map (quota.required + ·)

theorem Quota.required_le_most {quota : Quota} {most : Nat} (bounded : quota.most = some most) :
    quota.required ≤ most := by
  obtain ⟨limit, _, rfl⟩ := Option.map_eq_some_iff.mp bounded
  exact Nat.le_add_right _ _

namespace Bounds

/-- The bounds make sense: at least no match, and at most no fewer than at least. -/
structure Sensible (bounds : Bounds) : Prop where
  lower : 0 ≤ bounds.lower
  upper : ∀ upper ∈ bounds.upper, bounds.lower ≤ upper

theorem required_of_quota {bounds : Bounds} {quota : Quota}
    (valid : bounds.quota = .ok quota) : quota.required = bounds.lower.toNatClampNeg := by
  simp only [Bounds.quota] at valid
  split at valid
  · cases valid
  · next sensible =>
      have least := toWord_of_nonneg (Nat.le_refl 64) (Int64.not_lt.mp sensible)
      split at valid
      · cases valid
        exact least
      · split at valid
        · cases valid
        · cases valid
          exact least

/-- There is a limit on what is taken besides what is required if there is an upper
bound. -/
theorem extra_of_quota {bounds : Bounds} {quota : Quota} (valid : bounds.quota = .ok quota)
    (unlimited : quota.extra = none) : bounds.upper = none := by
  simp only [Bounds.quota] at valid
  split at valid
  · cases valid
  · split at valid
    · next unbounded => exact unbounded
    · split at valid
      · cases valid
      · cases valid
        cases unlimited

theorem Sensible.quota_eq_ok {bounds : Bounds} (sensible : bounds.Sensible) :
    ∃ quota, bounds.quota = .ok quota := by
  have proper : ¬ bounds.lower < 0 := Int64.not_lt.mpr sensible.lower
  cases bounded : bounds.upper with
  | none => exact ⟨_, quota_of_none proper bounded⟩
  | some upper =>
      exact ⟨_, quota_of_le proper bounded (Int64.not_lt.mpr (sensible.upper upper bounded))⟩

theorem required_pos {bounds : Bounds} {quota : Quota} (valid : bounds.quota = .ok quota)
    (least : 0 < bounds.lower) : 0 < quota.required := by
  rw [required_of_quota valid]
  have positive := Int64.lt_iff_toInt_lt.mp least
  rw [Int64.toInt_zero] at positive
  show 0 < bounds.lower.toInt.toNat
  omega

/-- The quota asks for what the bounds are written with: as many matches are required as the
lower bound says, and no more are taken in all than the upper bound says. -/
structure AsksFor (bounds : Bounds) (quota : Quota) : Prop where
  quota_eq : bounds.quota = .ok quota
  required : (quota.required : Int) = bounds.lower.toInt
  most : quota.most.map Int.ofNat = bounds.upper.map Int64.toInt

/-- Bounds that make sense ask for a quota. -/
theorem Sensible.exists_quota {bounds : Bounds} (sensible : bounds.Sensible) :
    ∃ quota, bounds.AsksFor quota := by
  have positive := Int64.le_iff_toInt_le.mp sensible.lower
  rw [Int64.toInt_zero] at positive
  have required : (bounds.lower.toNatClampNeg : Int) = bounds.lower.toInt :=
    Int.toNat_of_nonneg positive
  have proper : ¬ bounds.lower < 0 := Int64.not_lt.mpr sensible.lower
  cases bounded : bounds.upper with
  | none => exact ⟨_, quota_of_none proper bounded, required, by rw [bounded]; rfl⟩
  | some upper =>
      have order := sensible.upper upper bounded
      have extra : ((upper - bounds.lower).toNatClampNeg : Int) =
          upper.toInt - bounds.lower.toInt := by
        have apart := Int64.le_iff_toInt_le.mp order
        rw [← toInt_sub_of_le sensible.lower order]
        apply Int.toNat_of_nonneg
        rw [toInt_sub_of_le sensible.lower order]
        omega
      refine ⟨_, quota_of_le proper bounded (Int64.not_lt.mpr order), required, ?_⟩
      simp only [Quota.most, bounded, Option.map_some, Option.some.injEq, Int.ofNat_eq_natCast,
        Int.natCast_add, required, extra]
      omega

namespace AsksFor

variable {bounds : Bounds} {quota : Quota} {taken : Nat}

theorem most_eq_some_iff (asks : bounds.AsksFor quota) :
    quota.most = some taken ↔ bounds.upper.map Int64.toInt = some (taken : Int) := by
  rw [← asks.most]
  cases quota.most with
  | none => exact ⟨nofun, nofun⟩
  | some most => simp only [Option.map_some, Option.some.injEq, Int.ofNat_eq_natCast, Int.ofNat_inj]

theorem most_eq_none_iff (asks : bounds.AsksFor quota) :
    quota.most = none ↔ bounds.upper = none := by
  rw [← Option.map_eq_none_iff (f := Int.ofNat), asks.most, Option.map_eq_none_iff]

theorem le_most_iff (asks : bounds.AsksFor quota) :
    (∀ most, quota.most = some most → taken ≤ most) ↔
      ∀ upper ∈ bounds.upper, (taken : Int) ≤ upper.toInt := by
  simp only [asks.most_eq_some_iff, Option.mem_def, Option.map_eq_some_iff]
  constructor
  · intro within upper bounded
    obtain ⟨most, same⟩ : ∃ most : Nat, upper.toInt = most := by
      have whole := asks.most
      rw [bounded] at whole
      obtain ⟨most, _, same⟩ := Option.map_eq_some_iff.mp whole
      exact ⟨most, same.symm⟩
    have le := within most ⟨upper, bounded, same⟩
    omega
  · rintro within most ⟨upper, bounded, same⟩
    have le := within upper bounded
    omega

/-- Where there are not too many matches, there is room for one more unless there are as many as
the upper bound says. -/
theorem ne_most_iff (asks : bounds.AsksFor quota)
    (within : ∀ upper ∈ bounds.upper, (taken : Int) ≤ upper.toInt) :
    quota.most ≠ some taken ↔ ∀ upper ∈ bounds.upper, (taken : Int) < upper.toInt := by
  rw [ne_eq, asks.most_eq_some_iff]
  cases bounded : bounds.upper with
  | none => simp
  | some upper =>
      have le := within upper bounded
      simp only [Option.mem_def, Option.some.injEq, forall_eq', Option.map_some]
      omega

theorem required_le_iff (asks : bounds.AsksFor quota) :
    quota.required ≤ taken ↔ bounds.lower.toInt ≤ taken := by
  rw [← asks.required, Int.ofNat_le]

theorem toNat_lower (asks : bounds.AsksFor quota) : bounds.lower.toInt.toNat = quota.required := by
  rw [← asks.required, Int.toNat_natCast]

end AsksFor

end Bounds

end Descent
