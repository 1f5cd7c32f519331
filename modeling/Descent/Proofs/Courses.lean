import Descent.Proofs.Repetition

/-!
# What repetitions do

A repetition from zero takes matches for as long as the parser moves, so its course is the only
one there is: the parser is run at each place on the way, and once more where it does not get
on. What happens there decides how the repetition ends.

A repetition within bounds is told which matches it may take and when it has to stop. Bounds that
make no sense are found out before the parser is run. Otherwise the matches that are required
may fail in any way, and those that follow may not fail but with a mismatch, which ends the
repetition well.
-/

namespace Descent.Rules

variable {τ ρ : Type} [Token τ] {Out : ρ → Type} {α γ : Type}
variable {rules : Rules τ Out} {parser : Parser τ Out α} {collector : Collector α γ}
variable {cursor last : Cursor τ} {row : List (Match τ α)} {outcome : Outcome τ γ}

/-- With guarded rules every parser ends everywhere. -/
theorem Guarded.total (guarded : rules.Guarded) (parser : Parser τ Out α) (start : Cursor τ) :
    ∃ outcome, rules.Ends parser start outcome := by
  have ends := parser.endsBelow_reading (rules.forward_readingAt _)
    (guarded.endsBelow_readingAt (start.remainingLength + 1))
  obtain ⟨outcome, reads⟩ := ends start (Nat.lt_succ_self _)
  exact ⟨outcome, ends_of_reading reads⟩

/-! ## From zero -/

/-- A repetition from zero takes the one course that there is. -/
theorem Repeats.course
    (repeats : rules.Repeats parser collector ⟨0, none⟩ cursor row last outcome) :
    rules.Course parser cursor row last := by
  obtain ⟨matched, allowed, closes⟩ := repeats
  refine ⟨matched, allowed.moving rfl, ?_⟩
  cases closes with
  | full full => cases full
  | mismatch _ _ ends _ => exact ⟨_, ends, nofun⟩
  | failure _ ends _ => exact ⟨_, ends, nofun⟩
  | standstill _ _ ends =>
      refine ⟨_, ends, ?_⟩
      rintro _ ⟨⟩
      rfl

theorem Course.exists_repeats (course : rules.Course parser cursor row last)
    (collector : Collector α γ) :
    ∃ outcome, rules.Repeats parser collector ⟨0, none⟩ cursor row last outcome := by
  obtain ⟨matched, moving, stays⟩ := course
  have allowed : (⟨0, none⟩ : Quota).Allows cursor row := ⟨nofun, fun _ => moving⟩
  obtain ⟨outcome, closes⟩ : ∃ outcome, rules.Closes parser ⟨0, none⟩ row.length
      (collector.collect (row.map Match.value)) last outcome :=
    stays.exists_closes rfl (Nat.zero_le _) _
  exact ⟨outcome, matched, allowed, closes⟩

/-- There is no second course. -/
theorem Course.unique {others : List (Match τ α)} {otherLast : Cursor τ}
    (course : rules.Course parser cursor row last)
    (other : rules.Course parser cursor others otherLast) : others = row ∧ otherLast = last := by
  obtain ⟨outcome, repeats⟩ := course.exists_repeats .unit
  obtain ⟨otherOutcome, otherRepeats⟩ := other.exists_repeats .unit
  cases repeats.unique otherRepeats
  exact ⟨rfl, other.matched.last_eq.trans course.matched.last_eq.symm⟩

theorem repeats_fromZero_ok_iff {gathered : γ} :
    (∃ place, rules.Repeats parser collector ⟨0, none⟩ cursor row place (.ok ⟨gathered, last⟩)) ↔
      ∃ error, rules.Row parser cursor row last ∧ Match.Moving (Match.places cursor row) ∧
        gathered = collector.collect (row.map Match.value) ∧
        rules.Ends parser last (.error error) ∧ error.isRecoverable = true := by
  rw [repeats_ok_iff, Quota.allows_unbounded_iff]
  constructor
  · rintro ⟨⟨matched, moving⟩, same, _, full | ⟨error, stops⟩⟩
    · cases full
    · exact ⟨error, matched, moving, same, stops⟩
  · rintro ⟨error, matched, moving, same, stops⟩
    exact ⟨⟨matched, moving⟩, same, Nat.zero_le _, .inr ⟨error, stops⟩⟩

theorem repeats_fromZero_error_iff {error : ParseError τ} :
    rules.Repeats parser collector ⟨0, none⟩ cursor row last (.error error) ↔
      rules.Row parser cursor row last ∧ Match.Moving (Match.places cursor row) ∧
        ((∃ value, rules.Ends parser last (.ok ⟨value, last⟩)) ∧ error = ⟨last, .noProgress⟩ ∨
          rules.Ends parser last (.error error) ∧ error.isRecoverable = false) := by
  rw [repeats_error_iff, Quota.allows_unbounded_iff]
  constructor
  · rintro ⟨⟨matched, moving⟩, ⟨missing, _⟩ | ⟨_, _, fails⟩ | ⟨_, _, still⟩⟩
    · exact absurd (Nat.zero_le _) missing
    · exact ⟨matched, moving, .inr fails⟩
    · exact ⟨matched, moving, .inl still⟩
  · rintro ⟨matched, moving, still | fails⟩
    · exact ⟨⟨matched, moving⟩, .inr (.inr ⟨Nat.zero_le _, rfl, still⟩)⟩
    · exact ⟨⟨matched, moving⟩, .inr (.inl ⟨Nat.zero_le _, nofun, fails⟩)⟩

/-- What a repetition from zero does, for a parser that ends everywhere. It ends, and it ends well
exactly with the outputs of matches that move, behind which the parser fails with a mismatch. It
fails exactly where such matches lead to a place at which the parser stands still, or with the
other failures of the parser, and so never with a mismatch. Only one row of matches leads to where
the parser does not get on; the parser is run once at each of its places and nowhere else. -/
theorem zeroOrMore_ends (collector : Collector α γ)
    (total : ∀ start, ∃ outcome, rules.Ends parser start outcome) (cursor : Cursor τ) :
    (∃ outcome, rules.Ends (.zeroOrMore collector parser) cursor outcome) ∧
    (∀ gathered last,
      rules.Ends (.zeroOrMore collector parser) cursor (.ok ⟨gathered, last⟩) ↔
        ∃ row error, rules.Row parser cursor row last ∧ Match.Moving (Match.places cursor row) ∧
          gathered = collector.collect (row.map Match.value) ∧
          rules.Ends parser last (.error error) ∧ error.isRecoverable = true) ∧
    (∀ error,
      rules.Ends (.zeroOrMore collector parser) cursor (.error error) ↔
        ∃ row last, rules.Row parser cursor row last ∧ Match.Moving (Match.places cursor row) ∧
          ((∃ value, rules.Ends parser last (.ok ⟨value, last⟩)) ∧ error = ⟨last, .noProgress⟩ ∨
            rules.Ends parser last (.error error) ∧ error.isRecoverable = false)) ∧
    (∀ remainder expected actual,
      ¬ rules.Ends (.zeroOrMore collector parser) cursor
        (.error (.mismatch remainder expected actual))) ∧
    ∃ row last, rules.Course parser cursor row last ∧
      (∀ others otherLast, rules.Course parser cursor others otherLast →
        others = row ∧ otherLast = last) ∧
      ∀ label, rules.Silent label parser → ∀ depth site memory reply,
        rules.run depth (.zeroOrMore collector (.tap label parser)) site memory cursor =
          some reply →
        reply.log.visits label = (Match.places cursor row).map Cursor.position := by
  have ends_iff outcome : rules.Ends (.zeroOrMore collector parser) cursor outcome ↔
      ∃ row last, rules.Repeats parser collector ⟨0, none⟩ cursor row last outcome :=
    ends_iff_repeats (run_zeroOrMore rules parser collector)
  have fails error : rules.Ends (.zeroOrMore collector parser) cursor (.error error) ↔ _ :=
    (ends_iff _).trans (exists_congr fun row => exists_congr fun last => repeats_fromZero_error_iff)
  refine ⟨?ends, ?succeeds, fails, ?noMismatch, ?course⟩
  case ends =>
    obtain ⟨row, last, outcome, repeats⟩ := exists_repeats total collector ⟨0, none⟩ cursor
    exact ⟨outcome, (ends_iff outcome).mpr ⟨row, last, repeats⟩⟩
  case succeeds =>
    intro gathered last
    exact (ends_iff _).trans (exists_congr fun row => repeats_fromZero_ok_iff)
  case noMismatch =>
    intro remainder expected actual failed
    obtain ⟨row, last, _, _, ⟨_, same⟩ | ⟨_, final⟩⟩ := (fails _).mp failed
    · cases same
    · cases final
  case course =>
    obtain ⟨row, last, course⟩ := exists_course total cursor
    refine ⟨row, last, course, fun others otherLast other => course.unique other, ?_⟩
    intro label silent depth site memory reply replies
    obtain ⟨outcome, repeats⟩ := course.exists_repeats collector
    rw [run_zeroOrMore] at replies
    exact repeats.visits_eq silent replies

theorem brackets_guarded : brackets.Guarded :=
  fun _ => ⟨⟨⟨trivial, .inl (brackets.advances_satisfy _ _ _)⟩, .inr trivial⟩, trivial⟩

/-- A dot in one bracket, a dot in none, and a bracket that nothing follows. -/
def unclosed : Source Char := ⟨0, #['[', '.', ']', '.', '[']⟩

/-- The last bracket is read before the mismatch, and yet the repetition leaves off in front
of it. -/
theorem zeroOrMore_ends_unclosed :
    (∀ start, ∃ outcome, brackets.Ends (.rule ()) start outcome) ∧
      brackets.Ends (.zeroOrMore .array (.rule ())) (.start unclosed)
        (.ok ⟨#[1, 0], ⟨unclosed, 4, by decide⟩⟩) := by
  have total := brackets_guarded.total (.rule ())
  obtain ⟨_, succeeds, _⟩ := zeroOrMore_ends .array total (.start unclosed)
  refine ⟨total, (succeeds _ _).mpr ?_⟩
  refine ⟨[⟨1, ⟨unclosed, 3, by decide⟩⟩, ⟨0, ⟨unclosed, 4, by decide⟩⟩], _, ?matched, ?moving, rfl,
    ends_iff_reading.mpr ⟨3, rfl⟩, rfl⟩
  case matched =>
    exact .cons (ends_iff_reading.mpr ⟨3, rfl⟩)
      (.cons (ends_iff_reading.mpr ⟨3, rfl⟩) (.nil _))
  case moving =>
    refine Match.moving_cons.mpr ⟨?_, Match.moving_cons.mpr ⟨?_, List.IsChain.singleton _⟩⟩
    · exact fun same => absurd (congrArg Cursor.position same) (by decide)
    · exact fun same => absurd (congrArg Cursor.position same) (by decide)

/-! ## Within bounds -/

/-- A repetition within bounds may take these matches: no more than the upper bound says, and
without an upper bound none that is empty behind those that the lower bound asks for. -/
structure Counts (rules : Rules τ Out) (parser : Parser τ Out α) (bounds : Bounds)
    (cursor : Cursor τ) (row : List (Match τ α)) (last : Cursor τ) : Prop where
  matched : rules.Row parser cursor row last
  within : ∀ upper ∈ bounds.upper, (row.length : Int) ≤ upper.toInt
  moving : bounds.upper = none →
    Match.Moving ((Match.places cursor row).drop bounds.lower.toInt.toNat)

variable {bounds : Bounds} {quota : Quota}

theorem counts_iff (asks : bounds.AsksFor quota) :
    rules.Counts parser bounds cursor row last ↔
      rules.Row parser cursor row last ∧ quota.Allows cursor row := by
  constructor
  · rintro ⟨matched, within, moving⟩
    rw [asks.toNat_lower, ← asks.most_eq_none_iff] at moving
    exact ⟨matched, asks.le_most_iff.mpr within, moving⟩
  · rintro ⟨matched, within, moving⟩
    rw [asks.most_eq_none_iff, ← asks.toNat_lower] at moving
    exact ⟨matched, asks.le_most_iff.mp within, moving⟩

theorem repeats_within_ok_iff (asks : bounds.AsksFor quota) {gathered : γ} :
    (∃ place, rules.Repeats parser collector quota cursor row place (.ok ⟨gathered, last⟩)) ↔
      rules.Counts parser bounds cursor row last ∧
        gathered = collector.collect (row.map Match.value) ∧
        bounds.lower.toInt ≤ row.length ∧
        (bounds.upper.map Int64.toInt = some (row.length : Int) ∨
          ∃ error, rules.Ends parser last (.error error) ∧ error.isRecoverable = true) := by
  rw [repeats_ok_iff, ← counts_iff asks, asks.required_le_iff, asks.most_eq_some_iff]

theorem repeats_within_error_iff (asks : bounds.AsksFor quota) {error : ParseError τ} :
    rules.Repeats parser collector quota cursor row last (.error error) ↔
      rules.Counts parser bounds cursor row last ∧
        (row.length < bounds.lower.toInt ∧ rules.Ends parser last (.error error) ∨
          bounds.lower.toInt ≤ row.length ∧
            (∀ upper ∈ bounds.upper, (row.length : Int) < upper.toInt) ∧
            rules.Ends parser last (.error error) ∧ error.isRecoverable = false ∨
          bounds.lower.toInt ≤ row.length ∧ bounds.upper = none ∧
            (∃ value, rules.Ends parser last (.ok ⟨value, last⟩)) ∧
            error = ⟨last, .noProgress⟩) := by
  rw [repeats_error_iff, ← counts_iff asks, asks.required_le_iff, Int.not_le,
    asks.most_eq_none_iff]
  apply and_congr_right
  intro counts
  rw [asks.ne_most_iff counts.within]

/-- What a repetition within bounds does, for a parser that ends everywhere. A negative lower
bound is refused, and then an upper bound that is below the lower one, without a run of the
parser. With bounds that make sense the repetition ends. It ends well exactly with the outputs
of matches that it may take, at least as many as the lower bound says, if these are as many as
the upper bound says or the parser fails behind them with a mismatch; in the first case the
parser is run once for each of them and not once more. It fails exactly with any failure in
place of a match that is required, with a failure behind these that is no mismatch, and, without
an upper bound, where the parser stands still behind these. -/
theorem count_ends (bounds : Bounds) (collector : Collector α γ)
    (total : ∀ start, ∃ outcome, rules.Ends parser start outcome) (cursor : Cursor τ) :
    (bounds.lower < 0 → ∀ depth site memory,
      rules.run depth (.count bounds collector parser) site memory cursor =
        some ⟨.error ⟨cursor, .negativeCount bounds.lower⟩, memory, #[]⟩) ∧
    (∀ upper, 0 ≤ bounds.lower → bounds.upper = some upper → upper < bounds.lower →
      ∀ depth site memory, rules.run depth (.count bounds collector parser) site memory cursor =
        some ⟨.error ⟨cursor, .emptyRange bounds.lower upper⟩, memory, #[]⟩) ∧
    (bounds.Sensible →
      (∃ outcome, rules.Ends (.count bounds collector parser) cursor outcome) ∧
      (∀ gathered last,
        rules.Ends (.count bounds collector parser) cursor (.ok ⟨gathered, last⟩) ↔
          ∃ row, rules.Counts parser bounds cursor row last ∧
            gathered = collector.collect (row.map Match.value) ∧
            bounds.lower.toInt ≤ row.length ∧
            (bounds.upper.map Int64.toInt = some (row.length : Int) ∨
              ∃ error, rules.Ends parser last (.error error) ∧ error.isRecoverable = true)) ∧
      (∀ row last, rules.Counts parser bounds cursor row last →
        bounds.upper.map Int64.toInt = some (row.length : Int) →
        ∀ label, rules.Silent label parser → ∀ depth site memory reply,
          rules.run depth (.count bounds collector (.tap label parser)) site memory cursor =
            some reply →
          reply.log.visits label = (Match.places cursor row).dropLast.map Cursor.position) ∧
      ∀ error,
        rules.Ends (.count bounds collector parser) cursor (.error error) ↔
          ∃ row last, rules.Counts parser bounds cursor row last ∧
            (row.length < bounds.lower.toInt ∧ rules.Ends parser last (.error error) ∨
              bounds.lower.toInt ≤ row.length ∧
                (∀ upper ∈ bounds.upper, (row.length : Int) < upper.toInt) ∧
                rules.Ends parser last (.error error) ∧ error.isRecoverable = false ∨
              bounds.lower.toInt ≤ row.length ∧ bounds.upper = none ∧
                (∃ value, rules.Ends parser last (.ok ⟨value, last⟩)) ∧
                error = ⟨last, .noProgress⟩)) := by
  have refused {cause : Cause} (invalid : bounds.quota = .error cause) depth site memory :
      rules.run depth (.count bounds collector parser) site memory cursor =
        some ⟨.error ⟨cursor, cause⟩, memory, #[]⟩ := by
    simp only [run, Parser.attempt, Attempt.count, invalid]
  refine ⟨fun negative => refused (Bounds.quota_of_neg negative), ?empty, fun sensible => ?_⟩
  case empty =>
    intro upper least bounded empty
    exact refused (Bounds.quota_of_lt (Int64.not_lt.mpr least) bounded empty)
  obtain ⟨quota, asks⟩ := sensible.exists_quota
  have ends_iff outcome : rules.Ends (.count bounds collector parser) cursor outcome ↔
      ∃ row last, rules.Repeats parser collector quota cursor row last outcome :=
    ends_iff_repeats (run_count asks.quota_eq rules parser collector)
  refine ⟨?ends, ?succeeds, ?runs, ?fails⟩
  case ends =>
    obtain ⟨row, last, outcome, repeats⟩ := exists_repeats total collector quota cursor
    exact ⟨outcome, (ends_iff outcome).mpr ⟨row, last, repeats⟩⟩
  case succeeds =>
    intro gathered last
    exact (ends_iff _).trans (exists_congr fun row => repeats_within_ok_iff asks)
  case runs =>
    intro row last counts full label silent depth site memory reply replies
    have full := asks.most_eq_some_iff.mpr full
    obtain ⟨matched, allowed⟩ := (counts_iff asks).mp counts
    have repeats : rules.Repeats parser collector quota cursor row last _ :=
      ⟨matched, allowed, .full full⟩
    rw [run_count asks.quota_eq] at replies
    rw [repeats.visits_eq silent replies, if_pos full]
  case fails =>
    intro error
    exact (ends_iff _).trans
      (exists_congr fun row => exists_congr fun last => repeats_within_error_iff asks)

theorem silent_satisfy (label : String) (expected : String) (accepts : τ → Bool) :
    rules.Silent label (.satisfy none expected accepts) := by
  intro depth site memory cursor reply replies
  simp only [run, Parser.attempt, Attempt.satisfy, Log.ofNote] at replies
  split at replies
  · cases replies
    rfl
  · split at replies
    · cases replies
      rfl
    · cases replies
      rfl

/-- Three dots. -/
def dots : Source Char := ⟨0, #['.', '.', '.']⟩

/-- Of three dots two are taken, and the third one is not looked at. -/
theorem count_ends_dots :
    (∀ start, ∃ outcome, brackets.Ends (.token '.') start outcome) ∧
      (⟨1, some 2⟩ : Bounds).Sensible ∧
      brackets.Ends (.count ⟨1, some 2⟩ .array (.token '.')) (.start dots)
        (.ok ⟨#['.', '.'], ⟨dots, 2, by decide⟩⟩) ∧
      ∀ depth site memory reply,
        brackets.run depth (.count ⟨1, some 2⟩ .array (.tap "dot" (.token '.'))) site memory
            (.start dots) = some reply →
          reply.log.visits "dot" = [0, 1] := by
  have total := brackets_guarded.total (.token '.')
  have sensible : (⟨1, some 2⟩ : Bounds).Sensible := by
    constructor
    · decide
    · rintro _ ⟨⟩
      decide
  have counts : brackets.Counts (.token '.') ⟨1, some 2⟩ (.start dots)
      [⟨'.', ⟨dots, 1, by decide⟩⟩, ⟨'.', ⟨dots, 2, by decide⟩⟩] ⟨dots, 2, by decide⟩ := by
    refine ⟨?_, ?_, nofun⟩
    · exact .cons (ends_iff_reading.mpr ⟨0, rfl⟩)
        (.cons (ends_iff_reading.mpr ⟨0, rfl⟩) (.nil _))
    · rintro _ ⟨⟩
      decide
  obtain ⟨_, _, within⟩ := count_ends ⟨1, some 2⟩ .array total (.start dots)
  obtain ⟨_, succeeds, runs, _⟩ := within sensible
  refine ⟨total, sensible, (succeeds _ _).mpr ⟨_, counts, rfl, by decide, .inl rfl⟩, ?_⟩
  exact runs _ _ counts rfl "dot" (silent_satisfy _ _ _)

end Descent.Rules
