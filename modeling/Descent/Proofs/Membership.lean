import Descent.Proofs.Endless
import Descent.Proofs.Ranges
import Descent.Proofs.Tokens

/-!
# Counts in a range

A range of counts stands for the integers in it, and a repetition that is given the range takes as
many matches as one of them says. No integer below zero is a number of matches: a range that starts
there is refused, and so is one in which there is none but these. Both are refused before the
parser is run.

For this it has to be possible to write each end of the range with the 64 bits of bounds, and that
is so for all widths but the unsigned one of 64 bits. An end that a range leaves out is then the
count before it, as no range that reaches to zero ends at the least number there is.
-/

namespace Descent

/-- Integers of all widths but one fit into the 64 bits of bounds. -/
theorem Width.contains_signed64 {width : Width} {value : Int} (narrow : width ≠ .unsigned64)
    (contained : width.contains value = true) : Width.signed64.contains value = true := by
  obtain ⟨low, high⟩ := contains_iff.mp contained
  exact contains_iff.mpr
    ⟨Int.le_trans width.least_le low, Int.le_trans high (greatest_le narrow)⟩

namespace Bounds

variable {bounds : Bounds}

/-- The bounds allow this number of matches. -/
structure Admits (bounds : Bounds) (count : Int) : Prop where
  lower : bounds.lower.toInt ≤ count
  upper : ∀ upper ∈ bounds.upper, count ≤ upper.toInt

theorem lower_nonneg_iff : 0 ≤ bounds.lower ↔ 0 ≤ bounds.lower.toInt := by
  rw [Int64.le_iff_toInt_le, Int64.toInt_zero]

theorem Admits.sensible {count : Int} (admits : bounds.Admits count) (least : 0 ≤ bounds.lower) :
    bounds.Sensible where
  lower := least
  upper upper bounded :=
    Int64.le_iff_toInt_le.mpr (Int.le_trans admits.lower (admits.upper upper bounded))

theorem Sensible.admits_lower (sensible : bounds.Sensible) :
    bounds.Admits bounds.lower.toInt where
  lower := Int.le_refl _
  upper upper bounded := Int64.le_iff_toInt_le.mp (sensible.upper upper bounded)

/-- Bounds that do not start below zero make sense unless the upper one is below the lower
one. -/
theorem sensible_or (least : 0 ≤ bounds.lower) :
    bounds.Sensible ∨ ∃ upper, bounds.upper = some upper ∧ upper < bounds.lower := by
  by_cases order : ∀ upper ∈ bounds.upper, bounds.lower ≤ upper
  · exact .inl ⟨least, order⟩
  · simp only [not_forall] at order
    obtain ⟨upper, bounded, empty⟩ := order
    exact .inr ⟨upper, bounded, Int64.not_le.mp empty⟩

theorem quota_negative_iff :
    (∃ count, bounds.quota = .error (.negativeCount count)) ↔ bounds.lower < 0 := by
  constructor
  · rintro ⟨count, refused⟩
    by_contra least
    rcases sensible_or (Int64.not_lt.mp least) with sensible | ⟨upper, bounded, empty⟩
    · obtain ⟨quota, valid⟩ := sensible.quota_eq_ok
      cases refused.symm.trans valid
    · cases refused.symm.trans (quota_of_lt least bounded empty)
  · intro negative
    exact ⟨_, quota_of_neg negative⟩

theorem quota_empty_iff :
    (∃ lower upper, bounds.quota = .error (.emptyRange lower upper)) ↔
      0 ≤ bounds.lower ∧ ∀ count, ¬ bounds.Admits count := by
  constructor
  · rintro ⟨lower, upper, refused⟩
    have least : 0 ≤ bounds.lower := by
      by_contra negative
      cases refused.symm.trans (quota_of_neg (Int64.not_le.mp negative))
    refine ⟨least, fun count admits => ?_⟩
    obtain ⟨quota, valid⟩ := (admits.sensible least).quota_eq_ok
    cases refused.symm.trans valid
  · rintro ⟨least, none⟩
    rcases sensible_or least with sensible | ⟨upper, bounded, empty⟩
    · exact absurd sensible.admits_lower (none _)
    · exact ⟨_, _, quota_of_lt (Int64.not_lt.mpr least) bounded empty⟩

/-- Of the numbers of matches that are allowed, the upper bound is the one with no other behind
it. -/
theorem Admits.upper_eq_iff {count : Nat} (admits : bounds.Admits count) :
    bounds.upper.map Int64.toInt = some (count : Int) ↔ ¬ bounds.Admits (count + 1) := by
  have lower := admits.lower
  have more : bounds.Admits (count + 1) ↔ ∀ upper ∈ bounds.upper, (count : Int) < upper.toInt :=
    ⟨fun more => more.upper, fun within => ⟨by omega, within⟩⟩
  rw [more]
  cases bounded : bounds.upper with
  | none => simp
  | some upper =>
      have most := admits.upper upper bounded
      simp only [Option.map_some, Option.mem_def, Option.some.injEq, forall_eq']
      omega

end Bounds

namespace Span

/-! ## Ranges as sets of integers -/

/-- The count from which the range goes, if it is written with one. -/
def start? : Span → Option Int
  | .exact start | .halfOpen start _ | .closed start _ | .atLeast start => some start
  | .below _ | .atMost _ => none

/-- The integers in a range. Without a start, all are in it that come before its stop. -/
def Holds : Span → Int → Prop
  | .exact count, value => value = count
  | .halfOpen start stop, value => start ≤ value ∧ value < stop
  | .closed start stop, value => start ≤ value ∧ value ≤ stop
  | .atLeast start, value => start ≤ value
  | .below stop, value => value < stop
  | .atMost stop, value => value ≤ stop

instance : Membership Int Span :=
  ⟨Holds⟩

instance (span : Span) (value : Int) : Decidable (value ∈ span) :=
  match span with
  | .exact count => inferInstanceAs (Decidable (value = count))
  | .halfOpen start stop => inferInstanceAs (Decidable (start ≤ value ∧ value < stop))
  | .closed start stop => inferInstanceAs (Decidable (start ≤ value ∧ value ≤ stop))
  | .atLeast start => inferInstanceAs (Decidable (start ≤ value))
  | .below stop => inferInstanceAs (Decidable (value < stop))
  | .atMost stop => inferInstanceAs (Decidable (value ≤ stop))

variable {width : Width} {span : Span} {count : Int}

section Narrow

variable (narrow : width ≠ .unsigned64)

include narrow

theorem toInt_saturate_of_narrow {value : Int} (contained : width.contains value = true) :
    (saturate value).toInt = value :=
  toInt_saturate_of_contains (Width.contains_signed64 narrow contained)

/-- From zero on, counts up to the one before the stop are those that come before the stop. -/
theorem le_lastBefore_iff {stop : Int} (contained : width.contains stop = true)
    (natural : 0 ≤ count) : count ≤ (lastBefore stop).toInt ↔ count < stop := by
  have high := (Width.contains_iff.mp (Width.contains_signed64 narrow contained)).2
  rw [toInt_lastBefore, Int.min_eq_left high]
  simp only [Width.least]
  omega

variable (fits : span.fits width = true)

include fits

theorem toInt_lower : span.bounds.lower.toInt = span.start?.getD 0 := by
  cases span with
  | exact start => exact toInt_saturate_of_narrow narrow fits
  | halfOpen start stop =>
      exact toInt_saturate_of_narrow narrow (Bool.and_eq_true_iff.mp fits).1
  | closed start stop => exact toInt_saturate_of_narrow narrow (Bool.and_eq_true_iff.mp fits).1
  | atLeast start => exact toInt_saturate_of_narrow narrow fits
  | below stop => rfl
  | atMost stop => rfl

theorem lower_neg_iff : span.bounds.lower < 0 ↔ ∃ start ∈ span.start?, start < 0 := by
  rw [Int64.lt_iff_toInt_lt, toInt_lower narrow fits, Int64.toInt_zero]
  cases span.start? <;> simp

theorem lower_nonneg_iff : 0 ≤ span.bounds.lower ↔ ∀ start ∈ span.start?, 0 ≤ start := by
  rw [Bounds.lower_nonneg_iff, toInt_lower narrow fits]
  cases span.start? <;> simp

/-- The bounds made of a range admit the integers from zero on that are in it, and no others. -/
theorem mem_iff_admits (natural : 0 ≤ count) : count ∈ span ↔ span.bounds.Admits count := by
  have lower := toInt_lower narrow fits
  have admits_iff : span.bounds.Admits count ↔
      span.start?.getD 0 ≤ count ∧ ∀ upper ∈ span.bounds.upper, count ≤ upper.toInt := by
    rw [← lower]
    exact ⟨fun admits => ⟨admits.lower, admits.upper⟩, fun both => ⟨both.1, both.2⟩⟩
  rw [admits_iff]
  cases span with
  | exact start =>
      simp only [Membership.mem, Holds, start?, bounds, Bounds.exactly, Option.getD_some,
        Option.some.injEq, forall_eq', toInt_saturate_of_narrow narrow fits]
      omega
  | halfOpen start stop =>
      have inside := (Bool.and_eq_true_iff.mp fits).2
      simp only [Membership.mem, Holds, start?, bounds, Option.getD_some,
        Option.some.injEq, forall_eq', le_lastBefore_iff narrow inside natural]
  | closed start stop =>
      have inside := (Bool.and_eq_true_iff.mp fits).2
      simp only [Membership.mem, Holds, start?, bounds, Option.getD_some,
        Option.some.injEq, forall_eq', toInt_saturate_of_narrow narrow inside]
  | atLeast start =>
      simp only [Membership.mem, Holds, start?, bounds, Option.getD_some]
      have unbounded (upper : Int64) (bounded : none = some upper) : count ≤ upper.toInt :=
        absurd bounded.symm (Option.some_ne_none upper)
      exact ⟨fun first => ⟨first, unbounded⟩, And.left⟩
  | below stop =>
      simp only [Membership.mem, Holds, start?, bounds, Option.getD_none,
        Option.some.injEq, forall_eq', le_lastBefore_iff narrow fits natural, natural, true_and]
  | atMost stop =>
      simp only [Membership.mem, Holds, start?, bounds, Option.getD_none,
        Option.some.injEq, forall_eq', toInt_saturate_of_narrow narrow fits, natural, true_and]

/-- Only a range that is written without a stop has no upper bound. -/
theorem of_unbounded_iff (holds : Nat → Prop) :
    (span.bounds.upper = none → holds span.bounds.lower.toInt.toNat) ↔
      ∀ start, span = .atLeast start → holds start.toNat := by
  rw [toInt_lower narrow fits]
  cases span with
  | atLeast start =>
      constructor
      · rintro unbounded _ ⟨⟩
        exact unbounded rfl
      · intro started _
        exact started start rfl
  | exact | halfOpen | closed | below | atMost => exact ⟨nofun, nofun⟩

end Narrow

end Span

/-! ## Refused repetitions -/

namespace Attempt

variable {τ α γ : Type} {attempt : Attempt τ α} {site : Site}

/-- Each time the attempt is made, something is logged. -/
def Logs (attempt : Attempt τ α) : Prop :=
  ∀ site memory cursor reply, attempt site memory cursor = some reply → reply.log ≠ #[]

theorem logs_tap (label : String) (attempt : Attempt τ α) : (attempt.tap label).Logs := by
  intro site memory cursor reply replies
  obtain ⟨inner, _, same⟩ := Option.bind_eq_some_iff.mp replies
  cases same
  simp

/-- A loop does not fail before the attempt is made. -/
theorem Loop.Ceases.log_ne_empty {quota : Quota} {taken : Nat} {loop : Loop τ γ}
    {reply : Reply τ γ} {error : ParseError τ} (logs : attempt.Logs)
    (ceases : Loop.Ceases attempt site quota taken loop reply)
    (failed : reply.outcome = .error error) : reply.log ≠ #[] := by
  cases ceases with
  | missing _ replies => simp [abort, logs _ _ _ _ replies]
  | enough _ halts =>
      generalize quota.most.map (· - taken) = limit at halts
      cases halts with
      | full => cases failed
      | mismatch => cases failed
      | failure _ replies _ => simp [abort, logs _ _ _ _ replies]
      | standstill replies _ => simp [abort, logs _ _ _ _ replies]

end Attempt

namespace Rules

open Attempt (Loop)

variable {τ ρ : Type} [Token τ] {Out : ρ → Type} {α γ : Type}

/-- A repetition within these bounds fails where it starts, and its parser is not run: a tap on the
parser would show that. -/
structure Refuses (rules : Rules τ Out) (bounds : Bounds) (collector : Collector α γ)
    (parser : Parser τ Out α) (cursor : Cursor τ) (cause : Cause) : Prop where
  fails : ∀ depth site memory,
    rules.run depth (.count bounds collector parser) site memory cursor =
      some ⟨.error ⟨cursor, cause⟩, memory, #[]⟩
  unseen : ∀ label depth site memory,
    rules.run depth (.count bounds collector (.tap label parser)) site memory cursor =
      some ⟨.error ⟨cursor, cause⟩, memory, #[]⟩

variable {rules : Rules τ Out} {collector : Collector α γ} {parser : Parser τ Out α}
variable {cursor last : Cursor τ} {bounds : Bounds} {cause : Cause}

theorem run_of_refused (refused : bounds.quota = .error cause) (depth : Nat) (site : Site)
    (memory : Memory) :
    rules.run depth (.count bounds collector parser) site memory cursor =
      some ⟨.error ⟨cursor, cause⟩, memory, #[]⟩ := by
  simp only [run, Parser.attempt, Attempt.count, refused]

/-- A repetition is refused for the cause for which its bounds are. -/
theorem refuses_iff :
    rules.Refuses bounds collector parser cursor cause ↔ bounds.quota = .error cause := by
  constructor
  · intro refuses
    cases valid : bounds.quota with
    | error other =>
        cases (run_of_refused valid 0 [] .blank).symm.trans (refuses.fails 0 [] .blank)
        rfl
    | ok quota =>
        have replies := refuses.unseen "" 0 [] .blank
        rw [run_count valid] at replies
        obtain ⟨row, final, _, _, ceases⟩ := Loop.takes_of_repeated (rules.forward_run 0 _) replies
        exact absurd rfl (ceases.log_ne_empty (Attempt.logs_tap _ _) rfl)
  · intro refused
    exact ⟨run_of_refused refused, fun label => run_of_refused refused⟩

/-- If the bounds are not refused, a repetition within them fails as its parser does somewhere, or
because it stands still. -/
theorem refuses_or_of_ends {error : ParseError τ}
    (ends : rules.Ends (.count bounds collector parser) cursor (.error error)) :
    (∃ cause, rules.Refuses bounds collector parser cursor cause ∧ error = ⟨cursor, cause⟩) ∨
      error.cause = .noProgress ∨ ∃ place, rules.Ends parser place (.error error) := by
  cases valid : bounds.quota with
  | error cause =>
      obtain ⟨depth, replies⟩ := ends
      obtain ⟨reply, replied, same⟩ := replies depth (Nat.le_refl depth) [] .blank
      rw [run_of_refused valid] at replied
      cases replied
      cases same
      exact .inl ⟨cause, refuses_iff.mpr valid, rfl⟩
  | ok quota =>
      obtain ⟨row, last, _, _, closes⟩ := (ends_count_iff valid).mp ends
      cases closes with
      | failure _ ends _ => exact .inr (.inr ⟨last, ends⟩)
      | standstill => exact .inr (.inl rfl)

/-! ## Numbers of matches -/

/-- Within bounds that do not start below zero, a repetition ends well with as many matches as the
bounds admit, if there are as many as they admit or the parser fails with a mismatch. -/
theorem ends_count_ok_iff (least : 0 ≤ bounds.lower) {gathered : γ} :
    rules.Ends (.count bounds collector parser) cursor (.ok ⟨gathered, last⟩) ↔
      ∃ row, rules.Row parser cursor row last ∧ bounds.Admits row.length ∧
        (bounds.upper = none →
          Match.Moving ((Match.places cursor row).drop bounds.lower.toInt.toNat)) ∧
        gathered = collector.collect (row.map Match.value) ∧
        (¬ bounds.Admits (row.length + 1) ∨
          ∃ error, rules.Ends parser last (.error error) ∧ error.isRecoverable = true) := by
  rcases Bounds.sensible_or least with sensible | ⟨upper, bounded, empty⟩
  · obtain ⟨quota, asks⟩ := sensible.exists_quota
    rw [ends_count_iff asks.quota_eq]
    refine exists_congr fun row => (repeats_within_ok_iff asks).trans ?_
    constructor
    · rintro ⟨⟨matched, within, moving⟩, same, enough, stops⟩
      have admits : bounds.Admits row.length := ⟨enough, within⟩
      exact ⟨matched, admits, moving, same, stops.imp_left admits.upper_eq_iff.mp⟩
    · rintro ⟨matched, admits, moving, same, stops⟩
      exact ⟨⟨matched, admits.upper, moving⟩, same, admits.lower,
        stops.imp_left admits.upper_eq_iff.mpr⟩
  · have refused := Bounds.quota_of_lt (Int64.not_lt.mpr least) bounded empty
    constructor
    · intro ends
      have fails : rules.Ends (.count bounds collector parser) cursor (.error _) :=
        ends_of_run (run_of_refused refused 0 [] .blank)
      cases fails.unique ends
    · rintro ⟨row, _, admits, _⟩
      obtain ⟨quota, valid⟩ := (admits.sensible least).quota_eq_ok
      cases refused.symm.trans valid

/-- The same for the bounds that a range is written for. -/
theorem ends_count_of_span_iff {width : Width} {span : Span} (narrow : width ≠ .unsigned64)
    (fits : span.fits width = true) (least : ∀ start ∈ span.start?, 0 ≤ start) {gathered : γ} :
    rules.Ends (.count span.bounds collector parser) cursor (.ok ⟨gathered, last⟩) ↔
      ∃ row, rules.Row parser cursor row last ∧ (row.length : Int) ∈ span ∧
        (∀ start, span = .atLeast start →
          Match.Moving ((Match.places cursor row).drop start.toNat)) ∧
        gathered = collector.collect (row.map Match.value) ∧
        ((row.length + 1 : Int) ∉ span ∨
          ∃ error, rules.Ends parser last (.error error) ∧ error.isRecoverable = true) := by
  rw [ends_count_ok_iff ((Span.lower_nonneg_iff narrow fits).mpr least)]
  refine exists_congr fun row => ?_
  have natural : 0 ≤ (row.length : Int) := Int.natCast_nonneg _
  rw [← Span.mem_iff_admits narrow fits natural,
    ← Span.mem_iff_admits narrow fits (Int.le_add_one natural),
    Span.of_unbounded_iff narrow fits fun taken =>
      Match.Moving ((Match.places cursor row).drop taken)]

/-- All tokens that are left match one by one. -/
theorem exists_row_any (rules : Rules τ Out) (cursor : Cursor τ) :
    ∃ row last, rules.Row .any cursor row last ∧ Match.Moving (Match.places cursor row) ∧
      row.map Match.value = cursor.remaining ∧ last.position = cursor.length ∧
      ∃ error, rules.Ends .any last (.error error) ∧ error.isRecoverable = true := by
  generalize left : cursor.remaining = tokens
  induction tokens generalizing cursor with
  | nil =>
      have fails : rules.reading 0 .any cursor = some (.error (.unexpected cursor "anything")) :=
        Reading.satisfy_eq_error.mpr ⟨Cursor.nextIs_of_ended left, rfl⟩
      have ended : cursor.position = cursor.length :=
        Nat.le_antisymm cursor.position_le
          (Cursor.atEnd_iff.mp (Cursor.atEnd_iff_remaining.mpr left))
      exact ⟨[], cursor, .nil cursor, List.IsChain.singleton _, rfl, ended, _,
        ends_of_reading fails, Reading.isRecoverable_unexpected _ _⟩
  | cons token tokens inductionHypothesis =>
      obtain ⟨behind, whole, ended⟩ := cursor.passes_remaining
      rw [left, ← List.singleton_append] at whole
      obtain ⟨next, first, others⟩ := whole.split
      have rest : next.remaining = tokens := by rw [others.remaining, ended, List.append_nil]
      obtain ⟨row, last, matched, moving, values, position, fails⟩ :=
        inductionHypothesis next rest
      have reads : rules.reading 0 .any cursor = some (.ok ⟨token, next⟩) :=
        Reading.satisfy_eq_ok.mpr ⟨Cursor.peek_eq_some_iff.mpr first, rfl⟩
      have moved : next ≠ cursor := by
        rintro rfl
        cases left.symm.trans rest
      refine ⟨⟨token, next⟩ :: row, last, .cons (ends_of_reading reads) matched,
        Match.moving_cons.mpr ⟨moved, moving⟩, ?_, ?_, fails⟩
      · rw [List.map_cons, values]
      · rw [position, Cursor.length, first.source, Cursor.length]

/-- A range of counts of any width but the unsigned one of 64 bits is taken at its word. Exactly if
it starts below zero, it is refused as negative, and exactly if it does not and there is nothing in
it from zero on, it is refused as empty; both before the parser is run, and no failure of the
repetition has such a cause unless it is one of the parser. Otherwise its bounds admit the integers
from zero on that are in it, and no others. A repetition then ends well exactly with as many
matches as the range holds, where it holds no number that is one greater or the parser fails with a
mismatch; without an end, matches have to move once the start is reached. No number is left out: a
source of as many tokens is taken as a whole. -/
theorem count_of_span {width : Width} {span : Span} (narrow : width ≠ .unsigned64)
    (fits : span.fits width = true) (rules : Rules τ Out) (collector : Collector α γ)
    (parser : Parser τ Out α) (cursor : Cursor τ) :
    ((∃ count, rules.Refuses span.bounds collector parser cursor (.negativeCount count)) ↔
      ∃ start ∈ span.start?, start < 0) ∧
    ((∃ lower upper,
        rules.Refuses span.bounds collector parser cursor (.emptyRange lower upper)) ↔
      (∀ start ∈ span.start?, 0 ≤ start) ∧ ∀ count ∈ span, count < 0) ∧
    (∀ error, rules.Ends (.count span.bounds collector parser) cursor (.error error) →
      (∃ cause, rules.Refuses span.bounds collector parser cursor cause ∧
          error = ⟨cursor, cause⟩) ∨
        error.cause = .noProgress ∨ ∃ place, rules.Ends parser place (.error error)) ∧
    ((∀ start ∈ span.start?, 0 ≤ start) →
      (∀ count, 0 ≤ count → (count ∈ span ↔ span.bounds.Admits count)) ∧
      (∀ gathered last,
        rules.Ends (.count span.bounds collector parser) cursor (.ok ⟨gathered, last⟩) ↔
          ∃ row, rules.Row parser cursor row last ∧ (row.length : Int) ∈ span ∧
            (∀ start, span = .atLeast start →
              Match.Moving ((Match.places cursor row).drop start.toNat)) ∧
            gathered = collector.collect (row.map Match.value) ∧
            ((row.length + 1 : Int) ∉ span ∨
              ∃ error, rules.Ends parser last (.error error) ∧ error.isRecoverable = true)) ∧
      ∀ source : Source τ, (source.tokens.size : Int) ∈ span →
        ∃ last, last.position = source.tokens.size ∧
          rules.Ends (.count span.bounds .array .any) (.start source)
            (.ok ⟨source.tokens, last⟩)) := by
  have least_iff := Span.lower_nonneg_iff narrow fits
  have mem_iff {count : Int} (natural : 0 ≤ count) := Span.mem_iff_admits narrow fits natural
  refine ⟨?negative, ?empty, fun error => refuses_or_of_ends, fun least => ?_⟩
  case negative =>
    simp only [refuses_iff]
    rw [Bounds.quota_negative_iff, Span.lower_neg_iff narrow fits]
  case empty =>
    simp only [refuses_iff]
    rw [Bounds.quota_empty_iff, ← least_iff]
    refine and_congr_right fun least => ⟨?_, ?_⟩
    · intro none count member
      by_contra natural
      exact none count ((mem_iff (Int.not_lt.mp natural)).mp member)
    · intro below count admits
      have natural := Int.le_trans (Bounds.lower_nonneg_iff.mp least) admits.lower
      exact absurd (below count ((mem_iff natural).mpr admits)) (Int.not_lt.mpr natural)
  refine ⟨fun count => mem_iff, fun gathered last => ends_count_of_span_iff narrow fits least,
    fun source member => ?_⟩
  obtain ⟨row, last, matched, moving, values, position, fails⟩ :=
    exists_row_any rules (.start source)
  rw [Cursor.remaining_start] at values
  have length : row.length = source.tokens.size := by
    rw [← List.length_map, values, Array.length_toList]
  refine ⟨last, position, (ends_count_of_span_iff narrow fits least).mpr ?_⟩
  refine ⟨row, matched, by rwa [length], fun _ _ => moving.drop _, ?_, .inr fails⟩
  rw [values, Collector.collect_array]

/-- Of three dots a range takes two that leaves out the third, and a range is refused that stops
before the least number there is. -/
theorem count_of_span_dots :
    Width.signed64 ≠ .unsigned64 ∧ (Span.halfOpen 2 3).fits .signed64 = true ∧
      brackets.Ends (.count (Span.halfOpen 2 3).bounds .array (.token '.')) (.start dots)
        (.ok ⟨#['.', '.'], ⟨dots, 2, by decide⟩⟩) ∧
      (Span.below Width.signed64.least).fits .signed64 = true ∧
      ∃ lower upper, brackets.Refuses (Span.below Width.signed64.least).bounds .array
        (.token '.') (.start dots) (.emptyRange lower upper) := by
  have narrow : Width.signed64 ≠ .unsigned64 := nofun
  have fits : (Span.halfOpen 2 3).fits .signed64 = true := by decide
  have leastFits : (Span.below Width.signed64.least).fits .signed64 = true := by decide
  obtain ⟨_, _, _, takes⟩ :=
    count_of_span narrow fits brackets .array (.token '.') (.start dots)
  obtain ⟨_, refuses, _⟩ :=
    count_of_span narrow leastFits brackets .array (.token '.') (.start dots)
  have natural : ∀ start ∈ (Span.halfOpen 2 3).start?, 0 ≤ start := by
    rintro _ ⟨⟩
    decide
  refine ⟨narrow, fits, ?takes, leastFits, refuses.mpr ⟨nofun, ?nothing⟩⟩
  case takes =>
    refine ((takes natural).2.1 _ _).mpr
      ⟨[⟨'.', ⟨dots, 1, by decide⟩⟩, ⟨'.', ⟨dots, 2, by decide⟩⟩], ?_, by decide, nofun, rfl,
        .inl (by decide)⟩
    exact .cons (ends_iff_reading.mpr ⟨0, rfl⟩) (.cons (ends_iff_reading.mpr ⟨0, rfl⟩) (.nil _))
  case nothing =>
    intro count member
    have below : count < Width.signed64.least := member
    exact Int.lt_trans below (by decide)

end Rules

end Descent
