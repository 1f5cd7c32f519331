import Descent.Proofs.Courses
import Descent.Proofs.Equivalence

/-!
# Repetitions in parts

A repetition may be divided where some of the matches that it requires are there: what it does
behind them is what a repetition does that requires so many fewer. So all repetitions are made of
two, an exact number of matches and as many as there are, and they agree with each other on
every outcome, the failures included.

Two things are needed for this. What is gathered in two parts has to be what is gathered in one,
and bounds that are divided have to ask for the same matches as before.
-/

namespace Descent

/-! ## Bounds in parts -/

namespace Bounds

theorem quota_exactly {count : Int64} (sensible : 0 ≤ count) :
    (exactly count).quota = .ok ⟨count.toNatClampNeg, some 0⟩ := by
  have whole : (exactly count).quota =
      .ok ⟨count.toNatClampNeg, some (count - count).toNatClampNeg⟩ :=
    quota_of_le (Int64.not_lt.mpr sensible) rfl (Int64.not_lt.mpr (Int64.le_refl count))
  rw [whole, Int64.sub_self]
  rfl

/-- What may be taken besides what is required may be asked for alone. -/
theorem quota_between {lower upper : Int64} (sensible : 0 ≤ lower) (proper : lower ≤ upper) :
    (⟨0, some (upper - lower)⟩ : Bounds).quota =
      .ok ⟨0, some (upper - lower).toNatClampNeg⟩ := by
  have apart : 0 ≤ upper - lower := by
    rw [Int64.le_iff_toInt_le, toInt_sub_of_le sensible proper, Int64.toInt_zero]
    have order := Int64.le_iff_toInt_le.mp proper
    omega
  have whole : (⟨0, some (upper - lower)⟩ : Bounds).quota =
      .ok ⟨(0 : Int64).toNatClampNeg, some (upper - lower - 0).toNatClampNeg⟩ :=
    quota_of_le (Int64.not_lt.mpr (Int64.le_refl 0)) rfl (Int64.not_lt.mpr apart)
  rw [whole, Int64.sub_zero]
  rfl

theorem quota_zero : (⟨0, none⟩ : Bounds).quota = .ok ⟨0, none⟩ := rfl

theorem quota_one : (⟨1, none⟩ : Bounds).quota = .ok ⟨0 + 1, none⟩ := rfl

theorem toNatClampNeg_add {count more : Int64} (sensible : 0 ≤ count) (moreSensible : 0 ≤ more)
    (sum : (count + more).toInt = count.toInt + more.toInt) :
    (count + more).toNatClampNeg = count.toNatClampNeg + more.toNatClampNeg := by
  have positive := Int64.le_iff_toInt_le.mp sensible
  have morePositive := Int64.le_iff_toInt_le.mp moreSensible
  rw [Int64.toInt_zero] at positive morePositive
  show (count + more).toInt.toNat = count.toInt.toNat + more.toInt.toNat
  rw [sum]
  omega

end Bounds

namespace Collector

variable {α γ : Type}

/-- The collector that goes on from what is gathered already. -/
def resume (collector : Collector α γ) (items : γ) : Collector α γ :=
  { collector with start := items }

/-- What is gathered from two lists is gathered from the second, going on from the first. -/
theorem collect_append (collector : Collector α γ) (front back : List α) :
    collector.collect (front ++ back) =
      (collector.resume (collector.collect front)).collect back :=
  List.foldl_append

end Collector

namespace Reading

variable {τ α β γ : Type} {reading : Reading τ α}

/-! ## What is gathered -/

/-- A collector is given changed outputs, which are listed unchanged otherwise. -/
theorem gathers_listed (collector : Collector β γ) (function : α → β) :
    Attempt.Corresponds.Gathers (fun value twin => twin = function value)
      (fun (outputs : Array α) gathered =>
        gathered = collector.collect (outputs.toList.map function))
      .array collector where
  start := rfl
  push := by
    rintro outputs _ value _ rfl rfl
    simp [Collector.array, Collector.collect]

theorem listed_gathers (collector : Collector β γ) (function : α → β) :
    Attempt.Corresponds.Gathers (fun value twin => value = function twin)
      (fun gathered (outputs : Array α) =>
        gathered = collector.collect (outputs.toList.map function))
      collector .array where
  start := rfl
  push := by
    rintro _ outputs _ value rfl rfl
    simp [Collector.array, Collector.collect]

/-- What is collected of changed outputs is what is made of the list of all outputs once these are
changed. -/
theorem count_map (bounds : Bounds) (collector : Collector β γ) (function : α → β)
    (reading : Reading τ α) :
    Reading.count bounds collector (reading.map function) =
      (Reading.count bounds .array reading).map
        fun outputs => collector.collect (outputs.toList.map function) :=
  eq_map_of_agrees
    ((reading.agrees_map function).count (gathers_listed collector function) bounds)
    ((reading.map_agrees function).count (listed_gathers collector function) bounds)

/-- What is collected is what is made of the list of all outputs. -/
theorem count_eq_map (bounds : Bounds) (collector : Collector α γ) (reading : Reading τ α) :
    Reading.count bounds collector reading =
      (Reading.count bounds .array reading).map
        fun outputs => collector.collect outputs.toList := by
  have unchanged := count_map bounds collector (fun output => output) reading
  simpa only [map_id, List.map_id'] using unchanged

/-! ## Matches that are required -/

/-- The reading of all repetitions: so many matches are required, and so many more are taken if
they are there. -/
def repeated (quota : Quota) (collector : Collector α γ) (reading : Reading τ α) : Reading τ γ :=
  fun cursor =>
    reading.required collector.push (reading.extra collector.push quota.extra) quota.required
      collector.start cursor

theorem count_of_quota {bounds : Bounds} {quota : Quota} (valid : bounds.quota = .ok quota)
    (collector : Collector α γ) (reading : Reading τ α) :
    Reading.count bounds collector reading = repeated quota collector reading := by
  funext cursor
  simp only [count, valid, repeated]

theorem repeated_succ (count : Nat) (extra : Option Nat) (collector : Collector α γ)
    (reading : Reading τ α) :
    repeated ⟨count + 1, extra⟩ collector reading =
      reading.flatMap fun value =>
        repeated ⟨count, extra⟩ (collector.resume (collector.push collector.start value)) reading :=
  rfl

/-- Behind some of the matches that it requires, a repetition requires the others. -/
theorem repeated_add (count : Nat) (quota : Quota) (collector : Collector α γ)
    (reading : Reading τ α) :
    repeated ⟨count + quota.required, quota.extra⟩ collector reading =
      (repeated ⟨count, some 0⟩ collector reading).flatMap fun items =>
        repeated quota (collector.resume items) reading := by
  induction count generalizing collector with
  | zero =>
      rw [Nat.zero_add]
      rfl
  | succ count inductionHypothesis =>
      rw [Nat.add_right_comm, repeated_succ, repeated_succ, flatMap_assoc]
      simp only [inductionHypothesis]
      rfl

/-- A repetition that requires some matches and more of them is one of the former and, behind
that, one of the latter. It collects what both list. -/
theorem count_eq_sequence {bounds front back : Bounds} {count : Nat} {quota : Quota}
    (frontValid : front.quota = .ok ⟨count, some 0⟩) (backValid : back.quota = .ok quota)
    (valid : bounds.quota = .ok ⟨count + quota.required, quota.extra⟩)
    (collector : Collector α γ) (reading : Reading τ α) :
    Reading.count bounds collector reading =
      (sequence Prod.mk ((Reading.count front .array reading).map Array.toList)
        ((Reading.count back .array reading).map Array.toList)).map
          fun outputs => collector.collect (outputs.1 ++ outputs.2) :=
  calc Reading.count bounds collector reading
      = (Reading.count front collector reading).flatMap fun items =>
          Reading.count back (collector.resume items) reading := by
        simp only [count_of_quota valid, count_of_quota frontValid, count_of_quota backValid,
          repeated_add]
    _ = (Reading.count front .array reading).flatMap fun outputs =>
          (Reading.count back .array reading).map fun others =>
            (collector.resume (collector.collect outputs.toList)).collect others.toList := by
        rw [count_eq_map front, map_flatMap]
        simp only [← count_eq_map]
    _ = _ := by
        rw [sequence_map, map_flatMap]
        simp only [map_map, Collector.collect_append]

/-! ## The first match -/

/-- A loop without a limit ends with a match of nothing. -/
theorem unlimited_of_still {push : γ → α → γ} {items : γ} {cursor : Cursor τ} {found : Match τ α}
    (succeeded : reading cursor = some (.ok found)) (still : (found.rest == cursor) = true) :
    reading.unlimited push items cursor = some (.error ⟨cursor, .noProgress⟩) := by
  rw [unlimited, succeeded]
  simp only [still, ↓reduceIte]

section First

variable (forward : reading.Forward)

include forward

/-- If the first match is empty, so is the next one, which is looked for at the same place. -/
theorem oneOrMore_eq_count (collector : Collector α γ) :
    Reading.oneOrMore collector reading = Reading.count ⟨1, none⟩ collector reading := by
  rw [count_of_quota Bounds.quota_one, repeated_succ]
  funext cursor
  simp only [Reading.oneOrMore, flatMap, andThen]
  cases read : reading cursor with
  | none => rfl
  | some outcome =>
      cases outcome with
      | error error => rfl
      | ok found =>
          have leads : cursor.LeadsTo found.rest := forward _ _ read
          show (if found.rest == cursor then _ else _) =
            reading.unlimited collector.push _ found.rest
          split
          · next still =>
              rw [leads.beq_iff.mp still, unlimited_of_still read still]
          · rfl

/-- The outputs behind the first one are those of a repetition from zero. -/
theorem oneOrMore_eq_sequence (collector : Collector α γ) :
    Reading.oneOrMore collector reading =
      (sequence Prod.mk reading ((Reading.zeroOrMore .array reading).map Array.toList)).map
        fun outputs => collector.collect (outputs.1 :: outputs.2) := by
  rw [oneOrMore_eq_count forward, count_of_quota Bounds.quota_one, repeated_succ, sequence_map]
  simp only [map_map]
  congr 1
  funext value
  exact count_eq_map ⟨0, none⟩ _ reading

end First

end Reading

namespace Rules

variable {τ ρ : Type} [Token τ] {Out : ρ → Type} {α γ : Type}
variable {rules : Rules τ Out} {parser : Parser τ Out α} {collector : Collector α γ}

/-! ## Repetitions that do the same -/

theorem equivalent_zeroOrMore :
    rules.Equivalent (.zeroOrMore collector parser) (.count ⟨0, none⟩ collector parser) :=
  equivalent_iff_reading.mpr fun _ => rfl

theorem equivalent_oneOrMore :
    rules.Equivalent (.oneOrMore collector parser) (.count ⟨1, none⟩ collector parser) :=
  equivalent_iff_reading.mpr fun depth =>
    Reading.oneOrMore_eq_count (rules.forward_reading depth parser) collector

theorem equivalent_first_many :
    rules.Equivalent (.oneOrMore collector parser)
      (.map none (fun outputs => collector.collect (outputs.1 :: outputs.2))
        (.both parser (.many parser))) :=
  equivalent_iff_reading.mpr fun depth =>
    Reading.oneOrMore_eq_sequence (rules.forward_reading depth parser) collector

/-- A repetition is divided as its quota is. -/
theorem equivalent_parts {bounds front back : Bounds} {count : Nat} {quota : Quota}
    (frontValid : front.quota = .ok ⟨count, some 0⟩) (backValid : back.quota = .ok quota)
    (valid : bounds.quota = .ok ⟨count + quota.required, quota.extra⟩) :
    rules.Equivalent (.count bounds collector parser)
      (.map none (fun outputs => collector.collect (outputs.1 ++ outputs.2))
        (.both (.repeated front parser) (.repeated back parser))) :=
  equivalent_iff_reading.mpr fun depth =>
    Reading.count_eq_sequence frontValid backValid valid collector (rules.reading depth parser)

/-- If the parser stands still, so does a repetition that has to take this for its first match. -/
theorem ends_oneOrMore_of_still {cursor : Cursor τ} {value : α}
    (still : rules.Ends parser cursor (.ok ⟨value, cursor⟩)) :
    rules.Ends (.oneOrMore collector parser) cursor (.error ⟨cursor, .noProgress⟩) := by
  obtain ⟨depth, read⟩ := ends_iff_reading.mp still
  have same : (cursor == cursor) = true := (Cursor.LeadsTo.refl cursor).beq_iff.mpr rfl
  refine ends_iff_reading.mpr ⟨depth, ?_⟩
  show Reading.oneOrMore collector (rules.reading depth parser) cursor = _
  simp only [Reading.oneOrMore, Reading.andThen, read, same, ↓reduceIte]

/-- How repetitions agree with each other. From zero or from one, they are repetitions without an
upper bound; from one, they are also the parser and then a repetition from zero, even where the
first match is empty. A repetition between two bounds, or from a lower bound on, is one of exactly
as many matches as the lower bound says and, behind it, one of those that may follow. And an exact
number of matches may be divided into any two. In each case what is gathered is what all outputs
together are gathered into, and failures are the same in full. -/
theorem repetitions_equivalent (rules : Rules τ Out) (parser : Parser τ Out α)
    (collector : Collector α γ) :
    rules.Equivalent (.zeroOrMore collector parser) (.count ⟨0, none⟩ collector parser) ∧
    rules.Equivalent (.oneOrMore collector parser) (.count ⟨1, none⟩ collector parser) ∧
    rules.Equivalent (.oneOrMore collector parser)
      (.map none (fun outputs => collector.collect (outputs.1 :: outputs.2))
        (.both parser (.many parser))) ∧
    (∀ cursor value, rules.Ends parser cursor (.ok ⟨value, cursor⟩) →
      rules.Ends (.oneOrMore collector parser) cursor (.error ⟨cursor, .noProgress⟩)) ∧
    (∀ lower upper : Int64, 0 ≤ lower → lower ≤ upper →
      rules.Equivalent (.count ⟨lower, some upper⟩ collector parser)
        (.map none (fun outputs => collector.collect (outputs.1 ++ outputs.2))
          (.both (.repeated (.exactly lower) parser)
            (.repeated ⟨0, some (upper - lower)⟩ parser)))) ∧
    (∀ lower : Int64, 0 ≤ lower →
      rules.Equivalent (.count ⟨lower, none⟩ collector parser)
        (.map none (fun outputs => collector.collect (outputs.1 ++ outputs.2))
          (.both (.repeated (.exactly lower) parser) (.many parser)))) ∧
    ∀ count more : Int64, 0 ≤ count → 0 ≤ more →
      (count + more).toInt = count.toInt + more.toInt →
      rules.Equivalent (.count (.exactly (count + more)) collector parser)
        (.map none (fun outputs => collector.collect (outputs.1 ++ outputs.2))
          (.both (.repeated (.exactly count) parser) (.repeated (.exactly more) parser))) := by
  refine ⟨equivalent_zeroOrMore, equivalent_oneOrMore, equivalent_first_many,
    fun _ _ => ends_oneOrMore_of_still, ?between, ?atLeast, ?exactly⟩
  case between =>
    intro lower upper sensible proper
    exact equivalent_parts (Bounds.quota_exactly sensible) (Bounds.quota_between sensible proper)
      (Bounds.quota_of_le (Int64.not_lt.mpr sensible) rfl (Int64.not_lt.mpr proper))
  case atLeast =>
    intro lower sensible
    exact equivalent_parts (Bounds.quota_exactly sensible) Bounds.quota_zero
      (Bounds.quota_of_none (Int64.not_lt.mpr sensible) rfl)
  case exactly =>
    intro count more sensible moreSensible sum
    have whole : 0 ≤ count + more := by
      have positive := Int64.le_iff_toInt_le.mp sensible
      have morePositive := Int64.le_iff_toInt_le.mp moreSensible
      rw [Int64.le_iff_toInt_le, sum]
      rw [Int64.toInt_zero] at positive morePositive ⊢
      omega
    have valid := Bounds.quota_exactly whole
    rw [Bounds.toNatClampNeg_add sensible moreSensible sum] at valid
    exact equivalent_parts (Bounds.quota_exactly sensible) (Bounds.quota_exactly moreSensible)
      valid

/-- Dots in two parts. -/
def dotted (front back : Parser Char (fun _ : Unit => Nat) (List Char)) :
    Parser Char (fun _ : Unit => Nat) (Array Char) :=
  .map none (fun outputs => Collector.array.collect (outputs.1 ++ outputs.2)) (.both front back)

/-- Of three dots one and one more are as good as one or two, and two and one as good as three.
Four and all others are missed like four or more, at the end of the dots. -/
theorem repetitions_equivalent_dots :
    brackets.Ends (.oneOrMore .array (.pure 7)) (.start dots)
      (.error ⟨.start dots, .noProgress⟩) ∧
    brackets.Ends
      (dotted (.repeated (.exactly 1) (.token '.')) (.repeated ⟨0, some 1⟩ (.token '.')))
      (.start dots) (.ok ⟨#['.', '.'], ⟨dots, 2, by decide⟩⟩) ∧
    brackets.Ends (dotted (.repeated (.exactly 4) (.token '.')) (.many (.token '.')))
      (.start dots) (.error (.mismatch ⟨dots, 3, by decide⟩ "." "EOF")) ∧
    brackets.Ends
      (dotted (.repeated (.exactly 2) (.token '.')) (.repeated (.exactly 1) (.token '.')))
      (.start dots) (.ok ⟨#['.', '.', '.'], ⟨dots, 3, by decide⟩⟩) := by
  obtain ⟨_, _, _, still, _⟩ := repetitions_equivalent brackets (.pure 7) .array
  obtain ⟨_, _, _, _, between, atLeast, exactly⟩ :=
    repetitions_equivalent brackets (.token '.') .array
  refine ⟨?still, ?between, ?atLeast, ?exactly⟩
  case still => exact still _ 7 (ends_iff_reading.mpr ⟨0, rfl⟩)
  case between =>
    exact (between 1 2 (by decide) (by decide)).ends_iff.mp (ends_iff_reading.mpr ⟨0, rfl⟩)
  case atLeast =>
    exact (atLeast 4 (by decide)).ends_iff.mp (ends_iff_reading.mpr ⟨0, rfl⟩)
  case exactly =>
    exact (exactly 2 1 (by decide) (by decide) (by decide)).ends_iff.mp
      (ends_iff_reading.mpr ⟨0, rfl⟩)

end Rules

end Descent
