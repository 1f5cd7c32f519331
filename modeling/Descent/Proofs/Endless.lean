import Descent.Proofs.Division
import Descent.Proofs.Failures

/-!
# Repetitions without an upper bound

A repetition that has no upper bound leaves nothing behind that it could have taken: where it
ends well, the parser that it repeats fails with a mismatch. So the same parser never matches
behind it, and another repetition of it finds nothing there.

It is the mismatch alone that lets such a repetition end well. A parser that makes do with
nothing where something is missing has none to offer, and so a repetition of it always fails:
with the failure of the parser, or where a match of nothing would go on forever.
-/

namespace Descent

variable {τ ρ : Type} {Out : ρ → Type} {α γ : Type}

namespace Parser

/-- The repetitions of a parser that have no upper bound, each with the number of matches that
may be empty because they are required. -/
inductive Endless (body : Parser τ Out α) (collector : Collector α γ) :
    Nat → Parser τ Out γ → Prop where
  | zeroOrMore : Endless body collector 0 (.zeroOrMore collector body)
  /-- The one match that is required here may not be empty. -/
  | oneOrMore : Endless body collector 0 (.oneOrMore collector body)
  | count {lower : Int64} (sensible : 0 ≤ lower) :
      Endless body collector lower.toNatClampNeg (.count ⟨lower, none⟩ collector body)

/-- The parser cannot fail, because the last of its alternatives reads nothing. -/
inductive Unfailing : {α : Type} → Parser τ Out α → Prop where
  | pure {α : Type} (value : α) : Unfailing (.pure value)
  | map {α β : Type} (note : Option String) (function : α → β) {parser : Parser τ Out α}
      (unfailing : Unfailing parser) : Unfailing (.map note function parser)
  | choice {α : Type} (first : Parser τ Out α) {last : Parser τ Out α}
      (unfailing : Unfailing last) : Unfailing (.choice first last)

/-- The parser makes do with nothing where something is missing: it cannot fail, it repeats what
need not be there, or it is made of such parsers alone. -/
inductive Forgiving : {α : Type} → Parser τ Out α → Prop where
  | unfailing {α : Type} {parser : Parser τ Out α} (unfailing : Unfailing parser) :
      Forgiving parser
  | map {α β : Type} (note : Option String) (function : α → β) {parser : Parser τ Out α}
      (forgiving : Forgiving parser) : Forgiving (.map note function parser)
  | sequence {α β γ : Type} (note : Option String) (combine : α → β → γ)
      {first : Parser τ Out α} {second : Parser τ Out β} (forgiving : Forgiving first)
      (otherForgiving : Forgiving second) : Forgiving (.sequence note combine first second)
  | choice {α : Type} {first second : Parser τ Out α} (forgiving : Forgiving first)
      (otherForgiving : Forgiving second) : Forgiving (.choice first second)
  | delayed {α : Type} (label : String) {parser : Parser τ Out α}
      (forgiving : Forgiving parser) : Forgiving (.delayed label parser)
  | zeroOrMore {α γ : Type} (collector : Collector α γ) (parser : Parser τ Out α) :
      Forgiving (.zeroOrMore collector parser)
  | oneOrMore {α γ : Type} (collector : Collector α γ) {parser : Parser τ Out α}
      (forgiving : Forgiving parser) : Forgiving (.oneOrMore collector parser)
  | upTo {α γ : Type} {bounds : Bounds} (nothing : bounds.lower ≤ 0)
      (collector : Collector α γ) (parser : Parser τ Out α) :
      Forgiving (.count bounds collector parser)
  | count {α γ : Type} (bounds : Bounds) (collector : Collector α γ) {parser : Parser τ Out α}
      (forgiving : Forgiving parser) : Forgiving (.count bounds collector parser)

theorem unfailing_optional (default : α) (parser : Parser τ Out α) :
    (optional default parser).Unfailing :=
  .choice parser (.pure default)

end Parser

namespace Reading

/-- Where the failures of a parser are not those that end a repetition well, it makes no
difference whether the first match is required. -/
theorem oneOrMore_eq_zeroOrMore {reading : Reading τ α} (forward : reading.Forward)
    (fails : reading.FailsAs fun error => error.isRecoverable = false)
    (collector : Collector α γ) :
    Reading.oneOrMore collector reading = Reading.zeroOrMore collector reading := by
  funext cursor
  simp only [Reading.oneOrMore, andThen, Reading.zeroOrMore]
  rw [unlimited]
  cases read : reading cursor with
  | none => rfl
  | some outcome =>
      cases outcome with
      | error error => simp only [fails cursor error read, Bool.false_eq_true, ↓reduceIte]
      | ok found =>
          cases moved : found.rest == cursor with
          | true => simp only [moved, ↓reduceIte]
          | false =>
              have shorter := forward.remainingLength_lt read moved
              simp only [moved, shorter, Bool.false_eq_true, ↓reduceIte]

end Reading

namespace Rules

variable [Token τ] {rules : Rules τ Out} {body : Parser τ Out α} {collector : Collector α γ}
variable {cursor last : Cursor τ} {row : List (Match τ α)} {exempt : Nat}
variable {whole : Parser τ Out γ} {outcome : Outcome τ γ}

theorem ends_zeroOrMore_iff :
    rules.Ends (.zeroOrMore collector body) cursor outcome ↔
      ∃ row last, rules.Repeats body collector ⟨0, none⟩ cursor row last outcome :=
  ends_iff_repeats (run_zeroOrMore rules body collector)

theorem ends_count_iff {bounds : Bounds} {quota : Quota} (valid : bounds.quota = .ok quota) :
    rules.Ends (.count bounds collector body) cursor outcome ↔
      ∃ row last, rules.Repeats body collector quota cursor row last outcome :=
  ends_iff_repeats (run_count valid rules body collector)

/-! ## What comes behind a repetition -/

/-- All repetitions without an upper bound run as one loop does. -/
theorem ends_endless_iff (rules : Rules τ Out) (endless : body.Endless collector exempt whole) :
    ∃ required, ∀ {cursor outcome}, rules.Ends whole cursor outcome ↔
      ∃ row last, rules.Repeats body collector ⟨required, none⟩ cursor row last outcome := by
  cases endless with
  | zeroOrMore => exact ⟨0, ends_zeroOrMore_iff⟩
  | oneOrMore =>
      exact ⟨1, equivalent_oneOrMore.ends_iff.trans (ends_count_iff Bounds.quota_one)⟩
  | count sensible =>
      exact ⟨_, ends_count_iff (Bounds.quota_of_none (Int64.not_lt.mpr sensible) rfl)⟩

/-- A repetition without an upper bound that ends well is stopped by a mismatch. -/
theorem stopped_of_endless (endless : body.Endless collector exempt whole) {gathered : γ}
    (ends : rules.Ends whole cursor (.ok ⟨gathered, last⟩)) :
    ∃ row error, rules.Row body cursor row last ∧
      gathered = collector.collect (row.map Match.value) ∧
      rules.Ends body last (.error error) ∧ error.isRecoverable = true := by
  obtain ⟨required, ends_iff⟩ := ends_endless_iff rules endless
  obtain ⟨row, place, repeats⟩ := ends_iff.mp ends
  obtain ⟨⟨matched, _⟩, same, _, full | ⟨error, stops⟩⟩ := repeats_ok_iff.mp ⟨place, repeats⟩
  · cases full
  · exact ⟨row, error, matched, same, stops⟩

/-- Where the parser fails with a mismatch, a repetition from zero finds nothing. -/
theorem ends_zeroOrMore_of_mismatch {error : ParseError τ}
    (ends : rules.Ends body cursor (.error error)) (recoverable : error.isRecoverable = true)
    (collector : Collector α γ) :
    rules.Ends (.zeroOrMore collector body) cursor (.ok ⟨collector.collect [], cursor⟩) := by
  apply ends_zeroOrMore_iff.mpr
  have allowed : (⟨0, none⟩ : Quota).Allows cursor ([] : List (Match τ α)) :=
    Quota.allows_unbounded_iff.mpr (List.IsChain.singleton cursor)
  exact ⟨[], cursor, .nil cursor, allowed,
    .mismatch (Nat.zero_le _) nofun ends recoverable⟩

/-- Behind a repetition without an upper bound the parser that it repeats never matches. If the
repetition fails, both fail with its failure, and if it ends well, both fail with the mismatch
that has stopped it. A further repetition from zero adds nothing: both end well exactly if the
first one does, at the same place, and fail as it does. -/
theorem endless_possessive (rules : Rules τ Out) (endless : body.Endless collector exempt whole)
    {δ : Type} (other : Collector α δ) (cursor : Cursor τ) :
    (∀ found, ¬ rules.Ends (.both whole body) cursor (.ok found)) ∧
    (∀ error, rules.Ends whole cursor (.error error) →
      rules.Ends (.both whole body) cursor (.error error)) ∧
    (∀ gathered last, rules.Ends whole cursor (.ok ⟨gathered, last⟩) →
      ∃ row error, rules.Row body cursor row last ∧
        gathered = collector.collect (row.map Match.value) ∧
        rules.Ends body last (.error error) ∧ error.isRecoverable = true ∧
        rules.Ends (.both whole body) cursor (.error error)) ∧
    (∀ found, rules.Ends (.both whole (.zeroOrMore other body)) cursor (.ok found) ↔
      rules.Ends whole cursor (.ok ⟨found.value.1, found.rest⟩) ∧
        found.value.2 = other.collect []) ∧
    ∀ error, rules.Ends (.both whole (.zeroOrMore other body)) cursor (.error error) ↔
      rules.Ends whole cursor (.error error) := by
  have finds {ahead : Match τ γ} (ends : rules.Ends whole cursor (.ok ahead)) :
      rules.Ends (.zeroOrMore other body) ahead.rest (.ok ⟨other.collect [], ahead.rest⟩) := by
    obtain ⟨row, error, _, _, stops, recoverable⟩ := stopped_of_endless endless ends
    exact ends_zeroOrMore_of_mismatch stops recoverable other
  refine ⟨?never, ?fails, ?stops, ?again, ?failsAgain⟩
  case never =>
    intro found ends
    obtain ⟨ahead, behind, aheadEnds, behindEnds, _⟩ := ends_both_ok_iff.mp ends
    obtain ⟨row, error, _, _, stops, _⟩ := stopped_of_endless endless aheadEnds
    cases stops.unique behindEnds
  case fails =>
    intro error fails
    exact ends_both_error_iff.mpr (.inl fails)
  case stops =>
    intro gathered last ends
    obtain ⟨row, error, matched, same, stops, recoverable⟩ := stopped_of_endless endless ends
    exact ⟨row, error, matched, same, stops, recoverable,
      ends_both_error_iff.mpr (.inr ⟨_, ends, stops⟩)⟩
  case again =>
    intro found
    constructor
    · intro ends
      obtain ⟨ahead, behind, aheadEnds, behindEnds, rfl⟩ := ends_both_ok_iff.mp ends
      cases (finds aheadEnds).unique behindEnds
      exact ⟨aheadEnds, rfl⟩
    · rintro ⟨ends, nothing⟩
      obtain ⟨⟨gathered, others⟩, rest⟩ := found
      cases nothing
      exact ends_both_ok_iff.mpr ⟨_, _, ends, finds ends, rfl⟩
  case failsAgain =>
    intro error
    constructor
    · intro fails
      rcases ends_both_error_iff.mp fails with fails | ⟨ahead, aheadEnds, fails⟩
      · exact fails
      · cases (finds aheadEnds).unique fails
    · intro fails
      exact ends_both_error_iff.mpr (.inl fails)

/-- A dot. -/
def dot : Parser Char (fun _ : Unit => Nat) Char := .token '.'

/-- Two of the dots or more are all of them: behind them there is no other one, and further dots
are none. -/
theorem endless_possessive_dots :
    dot.Endless .array 2 (.count ⟨2, none⟩ .array dot) ∧
    brackets.Ends (.both (.count ⟨2, none⟩ .array dot) dot) (.start dots)
      (.error (.mismatch ⟨dots, 3, by decide⟩ "." "EOF")) ∧
    brackets.Ends (.both (.count ⟨2, none⟩ .array dot) (.zeroOrMore .array dot)) (.start dots)
      (.ok ⟨(#['.', '.', '.'], #[]), ⟨dots, 3, by decide⟩⟩) := by
  have endless : dot.Endless .array 2 (.count ⟨2, none⟩ .array dot) :=
    Parser.Endless.count (by decide : (0 : Int64) ≤ 2)
  have matched : brackets.Row dot (.start dots)
      [⟨'.', ⟨dots, 1, by decide⟩⟩, ⟨'.', ⟨dots, 2, by decide⟩⟩, ⟨'.', ⟨dots, 3, by decide⟩⟩]
      ⟨dots, 3, by decide⟩ :=
    .cons (ends_iff_reading.mpr ⟨0, rfl⟩) (.cons (ends_iff_reading.mpr ⟨0, rfl⟩)
      (.cons (ends_iff_reading.mpr ⟨0, rfl⟩) (.nil _)))
  have moving : Match.Moving [(⟨dots, 2, by decide⟩ : Cursor Char), ⟨dots, 3, by decide⟩] :=
    .cons_cons (fun same => absurd (congrArg Cursor.position same) (by decide)) (.singleton _)
  have missing : brackets.Ends dot ⟨dots, 3, by decide⟩
      (.error (.mismatch ⟨dots, 3, by decide⟩ "." "EOF")) := ends_iff_reading.mpr ⟨0, rfl⟩
  have ends : brackets.Ends (.count ⟨2, none⟩ .array dot) (.start dots)
      (.ok ⟨#['.', '.', '.'], ⟨dots, 3, by decide⟩⟩) :=
    (ends_count_iff rfl).mpr ⟨_, _, matched, ⟨nofun, fun _ => moving⟩,
      .mismatch (by decide) nofun missing rfl⟩
  obtain ⟨_, _, stops, again, _⟩ := endless_possessive brackets endless .array (.start dots)
  refine ⟨endless, ?_, (again _).mpr ⟨ends, rfl⟩⟩
  obtain ⟨row, error, _, _, failed, _, fails⟩ := stops _ _ ends
  cases missing.unique failed
  exact fails

/-! ## Parsers that offer no mismatch -/

/-- The parser never fails with a mismatch, which is the only failure that lets a repetition end
well. -/
def Unmissable (rules : Rules τ Out) {α : Type} (parser : Parser τ Out α) : Prop :=
  ∀ cursor error, rules.Ends parser cursor (.error error) → error.isRecoverable = false

theorem unmissable_of_failsAs {parser : Parser τ Out α}
    (fails : ∀ depth, (rules.reading depth parser).FailsAs fun error =>
      error.isRecoverable = false) : rules.Unmissable parser := by
  intro cursor error ends
  obtain ⟨depth, read⟩ := ends_iff_reading.mp ends
  exact fails depth cursor error read

theorem Unmissable.failsAs {parser : Parser τ Out α} (unmissable : rules.Unmissable parser)
    (depth : Nat) :
    (rules.reading depth parser).FailsAs fun error => error.isRecoverable = false :=
  fun cursor error failed => unmissable cursor error (ends_of_reading failed)

/-- A repetition that requires nothing never fails with a mismatch, whatever it repeats. -/
theorem Repeats.isRecoverable_eq_false {quota : Quota} {error : ParseError τ}
    (repeats : rules.Repeats body collector quota cursor row last (.error error))
    (nothing : quota.required = 0) : error.isRecoverable = false := by
  cases repeats.closes with
  | failure _ _ final =>
      rw [nothing] at final
      exact final.resolve_left (Nat.not_lt_zero _)
  | standstill _ _ _ => rfl

theorem unmissable_zeroOrMore (collector : Collector α γ) (parser : Parser τ Out α) :
    rules.Unmissable (.zeroOrMore collector parser) := by
  intro cursor error ends
  obtain ⟨row, last, repeats⟩ := ends_zeroOrMore_iff.mp ends
  exact repeats.isRecoverable_eq_false rfl

theorem unmissable_upTo {bounds : Bounds} (nothing : bounds.lower ≤ 0)
    (collector : Collector α γ) (parser : Parser τ Out α) :
    rules.Unmissable (.count bounds collector parser) := by
  intro cursor error ends
  cases valid : bounds.quota with
  | error cause =>
      obtain ⟨depth, read⟩ := ends_iff_reading.mp ends
      have refused : (some (.error ⟨cursor, cause⟩) : Option (Outcome τ γ)) =
          some (.error error) := by
        rw [← read]
        show _ = Reading.count bounds collector (rules.reading depth parser) cursor
        simp only [Reading.count, valid]
      cases refused
      exact Bounds.isRecoverable_of_quota valid cursor
  | ok quota =>
      obtain ⟨row, last, repeats⟩ := (ends_count_iff valid).mp ends
      apply repeats.isRecoverable_eq_false
      rw [Bounds.required_of_quota valid]
      have clamped := Int64.le_iff_toInt_le.mp nothing
      rw [Int64.toInt_zero] at clamped
      show bounds.lower.toInt.toNat = 0
      omega

end Rules

theorem Parser.Unfailing.failsAs [Token τ] {parser : Parser τ Out α}
    (unfailing : parser.Unfailing) (rules : Rules τ Out) (depth : Nat) :
    (rules.reading depth parser).FailsAs fun _ => False := by
  induction unfailing with
  | pure value => exact .pure value
  | map note function unfailing inductionHypothesis => exact inductionHypothesis.map function
  | choice first unfailing inductionHypothesis =>
      intro cursor error failed
      rcases Reading.choice_eq_some failed with ⟨_, _, impossible⟩ | ⟨_, _, others⟩
      · cases impossible
      · rcases others with ⟨_, _, impossible⟩ | ⟨other, otherFailed, _⟩
        · cases impossible
        · exact inductionHypothesis cursor other otherFailed

/-- A forgiving parser has no mismatch to offer, one form of parsers after the other. -/
theorem Parser.Forgiving.unmissable [Token τ] {rules : Rules τ Out} {parser : Parser τ Out α}
    (forgiving : parser.Forgiving) : rules.Unmissable parser := by
  apply Rules.unmissable_of_failsAs
  intro depth
  induction forgiving with
  | unfailing unfailing =>
      intro cursor error failed
      exact (unfailing.failsAs rules depth cursor error failed).elim
  | map note function forgiving inductionHypothesis => exact inductionHypothesis.map function
  | sequence note combine forgiving otherForgiving inductionHypothesis otherHypothesis =>
      exact inductionHypothesis.sequence otherHypothesis combine
  | choice forgiving otherForgiving inductionHypothesis otherHypothesis =>
      exact inductionHypothesis.choice otherHypothesis
  | delayed label forgiving inductionHypothesis => exact inductionHypothesis
  | zeroOrMore collector parser =>
      exact (Rules.unmissable_zeroOrMore collector parser).failsAs depth
  | oneOrMore collector forgiving inductionHypothesis =>
      exact inductionHypothesis.oneOrMore (fun _ => rfl) collector
  | upTo nothing collector parser =>
      exact (Rules.unmissable_upTo nothing collector parser).failsAs depth
  | count bounds collector forgiving inductionHypothesis =>
      exact inductionHypothesis.count (fun _ => rfl)
        (fun _ refused cursor => Bounds.isRecoverable_of_quota refused cursor) collector

namespace Rules

variable [Token τ] {rules : Rules τ Out} {body : Parser τ Out α} {collector : Collector α γ}
variable {cursor last : Cursor τ} {row : List (Match τ α)} {exempt : Nat}
variable {whole : Parser τ Out γ} {outcome : Outcome τ γ}

/-- The first match of a parser that offers no mismatch is not required of a repetition, so only
the bounds require any. -/
theorem Unmissable.ends_endless_iff (unmissable : rules.Unmissable body)
    (endless : body.Endless collector exempt whole) :
    rules.Ends whole cursor outcome ↔
      ∃ row last, rules.Repeats body collector ⟨exempt, none⟩ cursor row last outcome := by
  cases endless with
  | zeroOrMore => exact ends_zeroOrMore_iff
  | oneOrMore =>
      have same : rules.Equivalent (.oneOrMore collector body) (.zeroOrMore collector body) :=
        equivalent_iff_reading.mpr fun depth =>
          Reading.oneOrMore_eq_zeroOrMore (rules.forward_reading depth body)
            (unmissable.failsAs depth) collector
      exact same.ends_iff.trans ends_zeroOrMore_iff
  | count sensible =>
      exact ends_count_iff (Bounds.quota_of_none (Int64.not_lt.mpr sensible) rfl)

/-- A course without an upper bound ends with a failure where the parser offers no mismatch. -/
theorem Unmissable.fails_of_repeats (unmissable : rules.Unmissable body) {required : Nat}
    (repeats : rules.Repeats body collector ⟨required, none⟩ cursor row last outcome) :
    ∃ error, outcome = .error error ∧
      (rules.Ends body last (.error error) ∧ error.isRecoverable = false ∨
        required ≤ row.length ∧ (∃ value, rules.Ends body last (.ok ⟨value, last⟩)) ∧
          error = ⟨last, .noProgress⟩) := by
  cases repeats.closes with
  | full full => cases full
  | mismatch _ _ ends recoverable =>
      rw [unmissable _ _ ends] at recoverable
      cases recoverable
  | failure _ ends _ => exact ⟨_, rfl, .inl ⟨ends, unmissable _ _ ends⟩⟩
  | standstill enough _ ends => exact ⟨_, rfl, .inr ⟨enough, ⟨_, ends⟩, rfl⟩⟩

/-- A repetition without an upper bound never ends well if the parser that it repeats offers no
mismatch, as any that makes do with nothing where something is missing. If it ends, it fails as
the parser does, the failure being the same in full, or where the parser stands still for the
first time behind the matches that may be empty. And it ends if the parser ends everywhere. -/
theorem endless_fails (rules : Rules τ Out) (endless : body.Endless collector exempt whole)
    (cursor : Cursor τ) :
    (body.Forgiving → rules.Unmissable body) ∧
    (rules.Unmissable body →
      (∀ outcome, rules.Ends whole cursor outcome →
        ∃ row last error, outcome = .error error ∧ rules.Row body cursor row last ∧
          Match.Moving ((Match.places cursor row).drop exempt) ∧
          (rules.Ends body last (.error error) ∧ error.isRecoverable = false ∨
            exempt ≤ row.length ∧ (∃ value, rules.Ends body last (.ok ⟨value, last⟩)) ∧
              error = ⟨last, .noProgress⟩)) ∧
      ((∀ start, ∃ outcome, rules.Ends body start outcome) →
        ∃ error, rules.Ends whole cursor (.error error))) := by
  refine ⟨Parser.Forgiving.unmissable, fun unmissable => ⟨?fails, ?ends⟩⟩
  case fails =>
    intro outcome ends
    obtain ⟨row, last, repeats⟩ := (unmissable.ends_endless_iff endless).mp ends
    obtain ⟨error, same, reason⟩ := unmissable.fails_of_repeats repeats
    exact ⟨row, last, error, same, repeats.matched, repeats.allowed.moving rfl, reason⟩
  case ends =>
    intro total
    obtain ⟨row, last, outcome, repeats⟩ := exists_repeats total collector ⟨exempt, none⟩ cursor
    obtain ⟨error, rfl, _⟩ := unmissable.fails_of_repeats repeats
    exact ⟨error, (unmissable.ends_endless_iff endless).mpr ⟨row, last, repeats⟩⟩

/-- A dot or none: behind the last dot, none is found over and over. -/
theorem endless_fails_dots :
    (Parser.optional '-' dot).Endless .array 0 (.oneOrMore .array (.optional '-' dot)) ∧
    brackets.Unmissable (.optional '-' dot) ∧
    brackets.Ends (.oneOrMore .array (.optional '-' dot)) ⟨dots, 2, by decide⟩
      (.error ⟨⟨dots, 3, by decide⟩, .noProgress⟩) := by
  have endless : (Parser.optional '-' dot).Endless .array 0
      (.oneOrMore .array (.optional '-' dot)) := .oneOrMore
  have read : brackets.Ends (.optional '-' dot) ⟨dots, 2, by decide⟩
      (.ok ⟨'.', ⟨dots, 3, by decide⟩⟩) := ends_iff_reading.mpr ⟨0, rfl⟩
  have missed : brackets.Ends (.optional '-' dot) ⟨dots, 3, by decide⟩
      (.ok ⟨'-', ⟨dots, 3, by decide⟩⟩) := ends_iff_reading.mpr ⟨0, rfl⟩
  obtain ⟨unmissable, fails⟩ := endless_fails brackets endless ⟨dots, 2, by decide⟩
  have unmissable := unmissable (.unfailing (Parser.unfailing_optional '-' dot))
  obtain ⟨reasons, ends⟩ := fails unmissable
  obtain ⟨error, failed⟩ := ends (brackets_guarded.total _)
  refine ⟨endless, unmissable, ?_⟩
  obtain ⟨row, last, _, same, matched, moving, reason⟩ := reasons _ failed
  cases same
  have stays : brackets.Stays (.optional '-' dot) last := by
    rcases reason with ⟨fails, _⟩ | ⟨_, ⟨value, still⟩, _⟩
    · exact ⟨_, fails, nofun⟩
    · refine ⟨_, still, ?_⟩
      rintro _ ⟨⟩
      rfl
  have course : brackets.Course (.optional '-' dot) ⟨dots, 2, by decide⟩
      [⟨'.', ⟨dots, 3, by decide⟩⟩] ⟨dots, 3, by decide⟩ := by
    refine ⟨.cons read (.nil _), Match.moving_cons.mpr ⟨?_, .singleton _⟩, _, missed, ?_⟩
    · exact fun same => absurd (congrArg Cursor.position same) (by decide)
    · rintro _ ⟨⟩
      rfl
  obtain ⟨_, rfl⟩ := course.unique ⟨matched, moving, stays⟩
  rcases reason with ⟨fails, _⟩ | ⟨_, _, rfl⟩
  · cases missed.unique fails
  · exact failed

end Rules

end Descent
