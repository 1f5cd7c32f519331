import Descent.Text.Decimal
import Mathlib.Algebra.Ring.Nat
import Mathlib.Data.List.DropRight

/-!
# Runs of digits

What digits denote grows with every digit that is put before or behind them. So if the
longest runs of digits in a text denote 64-bit numbers, all digits in the text do.
-/

namespace Descent.Text

/-- The number that digits denote, whatever they are. -/
def decimal (digits : List Char) : Nat :=
  digits.foldl (fun value digit => value * 10 + (digit.toNat - '0'.toNat)) 0

theorem decimal_append (digits later : List Char) :
    decimal (digits ++ later) = decimal digits * 10 ^ later.length + decimal later := by
  induction later using List.reverseRecOn with
  | nil => simp [decimal]
  | append_singleton later digit inductionHypothesis =>
      rw [← List.append_assoc]
      simp only [decimal, List.foldl_append, List.foldl_cons, List.foldl_nil,
        List.length_append, List.length_singleton] at inductionHypothesis ⊢
      rw [inductionHypothesis, Nat.pow_succ, Nat.add_mul, Nat.mul_assoc, Nat.add_assoc]

theorem decimal_le_append_left (digits later : List Char) :
    decimal digits ≤ decimal (digits ++ later) := by
  rw [decimal_append]
  calc decimal digits = decimal digits * 1 := (Nat.mul_one _).symm
    _ ≤ decimal digits * 10 ^ later.length :=
        Nat.mul_le_mul_left _ (Nat.one_le_pow _ _ (by omega))
    _ ≤ decimal digits * 10 ^ later.length + decimal later := Nat.le_add_right _ _

theorem decimal_le_append_right (digits later : List Char) :
    decimal later ≤ decimal (digits ++ later) := by
  rw [decimal_append]
  exact Nat.le_add_left _ _

/-- So many digits denote so great a number at most. -/
theorem decimal_lt_pow {digits : List Char} (all : digits.all Char.isDigit = true) :
    decimal digits < 10 ^ digits.length := by
  induction digits using List.reverseRecOn with
  | nil => exact Nat.zero_lt_one
  | append_singleton digits digit inductionHypothesis =>
      rw [List.all_append, Bool.and_eq_true] at all
      have before := inductionHypothesis all.1
      have last : digit.toNat - '0'.toNat ≤ 9 := by
        have isDigit : digit.isDigit = true := by simpa using all.2
        simp [Char.isDigit, UInt32.le_iff_toNat_le] at isDigit
        show digit.toNat - 48 ≤ 9
        omega
      have single : decimal [digit] = digit.toNat - '0'.toNat := by simp [decimal]
      rw [decimal_append, single, List.length_append, List.length_singleton, Nat.pow_succ]
      omega

/-- Digits that denote a 64-bit number are read as that number. -/
theorem readInt64_of_digits {digits : List Char} (nonempty : digits ≠ [])
    (all : digits.all Char.isDigit = true) (fits : decimal digits < 2 ^ 63) :
    readInt64 (String.ofList digits) = some (Int64.ofNat (decimal digits)) := by
  have natural : readNatural digits = some (decimal digits) := by
    cases digits with
    | nil => exact absurd rfl nonempty
    | cons first rest => simp [readNatural, decimal, all]
  have integer : readInteger digits = some (decimal digits : Int) := by
    cases digits with
    | nil => exact absurd rfl nonempty
    | cons first rest =>
        have digit : first.isDigit = true := (Bool.and_eq_true_iff.mp all).1
        simp only [readInteger]
        split
        · next same =>
            cases same
            cases digit
        · next same =>
            cases same
            cases digit
        · rw [natural]
          rfl
  have inRange : (Int64.ofInt (decimal digits)).toInt = decimal digits :=
    Int64.toInt_ofInt_of_le (by omega) (by omega)
  rw [readInt64, String.toList_ofList, integer]
  simp only [Option.bind_eq_bind, Option.bind_some, inRange, ↓reduceIte]
  rw [Int64.ofInt_eq_ofNat]

/-- The longest runs of digits in a text denote 64-bit numbers. -/
def DigitRunsFit (text : List Char) : Prop :=
  ∀ before digits after, text = before ++ digits ++ after →
    digits.all Char.isDigit = true →
    (∀ char ∈ before.getLast?, char.isDigit = false) →
    (∀ char ∈ after.head?, char.isDigit = false) →
    decimal digits < 2 ^ 63

/-- So do all runs of digits. -/
theorem DigitRunsFit.decimal_lt {text before digits after : List Char}
    (fits : DigitRunsFit text) (place : text = before ++ digits ++ after)
    (all : digits.all Char.isDigit = true) : decimal digits < 2 ^ 63 := by
  have longer : decimal (before.rtakeWhile Char.isDigit ++ digits ++
      after.takeWhile Char.isDigit) < 2 ^ 63 := by
    apply fits (before.rdropWhile Char.isDigit) _ (after.dropWhile Char.isDigit)
    · rw [place]
      nth_rewrite 1 [← List.rdropWhile_append_rtakeWhile (p := Char.isDigit) (l := before)]
      nth_rewrite 1 [← List.takeWhile_append_dropWhile (p := Char.isDigit) (l := after)]
      simp only [List.append_assoc]
    · rw [List.all_append, List.all_append, all, List.all_takeWhile]
      have ahead : (before.rtakeWhile Char.isDigit).all Char.isDigit = true :=
        List.all_eq_true.mpr fun char member => List.mem_rtakeWhile_imp member
      rw [ahead]
      rfl
    · intro char last
      obtain ⟨nonempty, same⟩ := List.mem_getLast?_eq_getLast last
      rw [same, Bool.eq_false_iff]
      exact List.rdropWhile_last_not Char.isDigit before nonempty
    · intro char first
      have refused := List.head?_dropWhile_not Char.isDigit after
      rw [first] at refused
      exact refused
  have left := decimal_le_append_left (before.rtakeWhile Char.isDigit ++ digits)
    (after.takeWhile Char.isDigit)
  have right := decimal_le_append_right (before.rtakeWhile Char.isDigit) digits
  omega

/-- In a text of up to eighteen characters no run of digits is too long. -/
theorem digitRunsFit_of_length_le {text : List Char} (short : text.length ≤ 18) :
    DigitRunsFit text := by
  intro before digits after place all _ _
  have length : digits.length ≤ 18 := by
    rw [place, List.length_append, List.length_append] at short
    omega
  calc decimal digits < 10 ^ digits.length := decimal_lt_pow all
    _ ≤ 10 ^ 18 := Nat.pow_le_pow_right (by omega) length
    _ < 2 ^ 63 := by decide

end Descent.Text
