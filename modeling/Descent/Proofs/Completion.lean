import Descent.Proofs.Endless
import Descent.Proofs.Locality
import Descent.Proofs.Passage

/-!
# Reading all of a source

To parse a source is to read all of it. A parser that leaves off before the end has not failed by
itself, and it is what it has left over that is reported: the first token of this stands where the
end of input should be. A parser that fails by itself is reported as it fails.

A repetition from zero leaves off wherever the repeated parser fails with a mismatch. So a source
is parsed by it if the source is cut into texts that the parser matches one by one, and if the
parser fails with a mismatch behind the last of them. That all has been read is not enough for
this: a parser that matches nothing at the end of input stands still there, and the repetition
fails.
-/

namespace Descent

variable {τ ρ : Type} {Out : ρ → Type} {α γ : Type}

namespace Cursor

variable {cursor place : Cursor τ} {text : List τ}

/-- What lies between two cursors is a text. -/
theorem LeadsTo.exists_passes (leads : cursor.LeadsTo place) :
    ∃ text, cursor.Passes text place := by
  refine ⟨cursor.remaining.take (place.position - cursor.position), leads.source, ?_⟩
  rw [leads.remaining_eq, List.take_append_drop]

theorem Passes.ne_nil_iff (passes : cursor.Passes text place) : text ≠ [] ↔ place ≠ cursor := by
  constructor
  · intro nonempty still
    have shorter := passes.remainingLength_lt nonempty
    rw [still] at shorter
    exact Nat.lt_irrefl _ shorter
  · rintro moved rfl
    exact moved passes.eq_of_nil

end Cursor

/-- A text, and what is made of it. -/
structure Segment (τ α : Type) where
  text : List τ
  value : α

namespace Rules

variable [Token τ] {rules : Rules τ Out} {parser : Parser τ Out α} {collector : Collector α γ}
variable {source : Source τ} {cursor last : Cursor τ} {error : ParseError τ}

/-! ## The end of input -/

theorem ends_eof_ok_iff {found : Match τ Unit} :
    rules.Ends .eof cursor (.ok found) ↔
      cursor.position = cursor.source.tokens.size ∧ found = ⟨(), cursor⟩ := by
  have whole : cursor.atEnd = true ↔ cursor.position = cursor.source.tokens.size :=
    Cursor.atEnd_iff.trans ⟨Nat.le_antisymm cursor.position_le, fun same => Nat.le_of_eq same.symm⟩
  rw [ends_iff_reading, ← whole]
  show (∃ _, Reading.eof cursor = _) ↔ _
  rw [exists_const, Reading.eof]
  split
  case isTrue ended => simp [ended, eq_comm]
  case isFalse more => simp [more]

/-- Short of the end of input, the failure is about the token that stands there. -/
theorem ends_eof_error_iff :
    rules.Ends .eof cursor (.error error) ↔
      ∃ token, cursor.source.tokens[cursor.position]? = some token ∧
        error = .mismatch cursor "EOF" (Token.describe token) := by
  rw [ends_iff_reading]
  show (∃ _, Reading.eof cursor = _) ↔ _
  rw [exists_const, Reading.eof]
  by_cases within : cursor.position < cursor.source.tokens.size
  · have more : cursor.atEnd ≠ true := mt Cursor.atEnd_iff.mp (Nat.not_le.mpr within)
    simp [more, within, ParseError.unexpected, Cursor.peek_of_lt within, endOfInput, eq_comm]
  · have ended : cursor.atEnd = true := Cursor.atEnd_iff.mpr (Nat.not_lt.mp within)
    simp [ended, within]

/-! ## Parsing -/

/-- What parsing a source comes to: an output, without the place behind it, or a failure. It is
the answer of all parses whose rules may be nested deep enough. -/
def Parses (rules : Rules τ Out) (parser : Parser τ Out α) (source : Source τ)
    (answer : Except (ParseError τ) α) : Prop :=
  ∃ depth, ∀ deeper, depth ≤ deeper → ∃ reply, rules.parse deeper parser source = some reply ∧
    reply.outcome.map Match.value = answer

theorem parses_iff_ends {answer : Except (ParseError τ) α} :
    rules.Parses parser source answer ↔
      ∃ outcome, rules.Ends parser.complete (.start source) outcome ∧
        outcome.map Match.value = answer := by
  constructor
  · rintro ⟨depth, replies⟩
    obtain ⟨reply, replied, same⟩ := replies depth (Nat.le_refl depth)
    exact ⟨reply.outcome, ends_of_run replied, same⟩
  · rintro ⟨outcome, ⟨depth, replies⟩, same⟩
    refine ⟨depth, fun deeper deep => ?_⟩
    obtain ⟨reply, replied, rfl⟩ := replies deeper deep [] .blank
    exact ⟨reply, replied, same⟩

theorem Ends.source_eq {value : α}
    (ends : rules.Ends parser (.start source) (.ok ⟨value, last⟩)) : last.source = source :=
  ends.leads.source

/-- A source is parsed if the parser gets to the end of it. -/
theorem parses_ok_iff {value : α} :
    rules.Parses parser source (.ok value) ↔
      ∃ last, rules.Ends parser (.start source) (.ok ⟨value, last⟩) ∧
        last.position = source.tokens.size := by
  rw [parses_iff_ends]
  constructor
  · rintro ⟨_ | found, ends, same⟩
    · cases same
    · cases same
      obtain ⟨ahead, behind, aheadEnds, behindEnds, rfl⟩ := ends_sequence_ok_iff.mp ends
      have whole := (ends_eof_ok_iff.mp behindEnds).1
      rw [aheadEnds.source_eq] at whole
      exact ⟨ahead.rest, aheadEnds, whole⟩
  · rintro ⟨last, ends, whole⟩
    refine ⟨.ok ⟨value, last⟩, ends_sequence_ok_iff.mpr ?_, rfl⟩
    refine ⟨⟨value, last⟩, ⟨(), last⟩, ends, ends_eof_ok_iff.mpr ⟨?_, rfl⟩, rfl⟩
    rw [ends.source_eq]
    exact whole

/-- A source is not parsed if the parser fails, or if it leaves something over. -/
theorem parses_error_iff :
    rules.Parses parser source (.error error) ↔
      rules.Ends parser (.start source) (.error error) ∨
        ∃ value last token, rules.Ends parser (.start source) (.ok ⟨value, last⟩) ∧
          source.tokens[last.position]? = some token ∧
          error = .mismatch last "EOF" (Token.describe token) := by
  have failed : rules.Parses parser source (.error error) ↔
      rules.Ends parser.complete (.start source) (.error error) := by
    rw [parses_iff_ends]
    constructor
    · rintro ⟨_ | found, ends, same⟩
      · cases same
        exact ends
      · cases same
    · intro ends
      exact ⟨_, ends, rfl⟩
  refine failed.trans (ends_sequence_error_iff.trans (or_congr_right ?_))
  constructor
  · rintro ⟨⟨value, last⟩, ends, left⟩
    obtain ⟨token, next, same⟩ := ends_eof_error_iff.mp left
    rw [ends.source_eq] at next
    exact ⟨value, last, token, ends, next, same⟩
  · rintro ⟨value, last, token, ends, next, same⟩
    refine ⟨⟨value, last⟩, ends, ends_eof_error_iff.mpr ⟨token, ?_, same⟩⟩
    rw [ends.source_eq]
    exact next

/-! ## Sources cut into matches -/

/-- Texts one behind the other, none of them empty, that the parser matches one by one: run where
a text starts, it succeeds and has read just this text. -/
inductive Cut (rules : Rules τ Out) {α : Type} (parser : Parser τ Out α) :
    Cursor τ → List (Segment τ α) → Cursor τ → Prop where
  | nil (cursor : Cursor τ) : Cut rules parser cursor [] cursor
  | cons {cursor next last : Cursor τ} {segment : Segment τ α} {segments : List (Segment τ α)}
      (ends : rules.Ends parser cursor (.ok ⟨segment.value, next⟩))
      (passes : cursor.Passes segment.text next) (nonempty : segment.text ≠ [])
      (more : Cut rules parser next segments last) :
      Cut rules parser cursor (segment :: segments) last

namespace Cut

variable {segments : List (Segment τ α)}

/-- The texts together are what is read. -/
theorem passes (cut : rules.Cut parser cursor segments last) :
    cursor.Passes (segments.map Segment.text).flatten last := by
  induction cut with
  | nil cursor => exact .refl cursor
  | cons ends passes nonempty more inductionHypothesis => exact passes.trans inductionHypothesis

/-- All of a source is cut if the texts together are the source. -/
theorem flatten_eq_iff (cut : rules.Cut parser (.start source) segments last) :
    (segments.map Segment.text).flatten = source.tokens.toList ↔
      last.position = source.tokens.size := by
  have remaining := cut.passes.remaining
  have position : last.position = (segments.map Segment.text).flatten.length := by
    rw [cut.passes.position_eq, Cursor.position_start, Nat.zero_add]
  rw [Cursor.remaining_start] at remaining
  rw [position, ← Array.length_toList, remaining, List.length_append]
  constructor
  · intro whole
    rw [← List.length_append, ← whole]
  · intro lengths
    rw [List.length_eq_zero_iff.mp (Nat.left_eq_add.mp lengths), List.append_nil]

theorem exists_row (cut : rules.Cut parser cursor segments last) :
    ∃ row, rules.Row parser cursor row last ∧ Match.Moving (Match.places cursor row) ∧
      row.map Match.value = segments.map Segment.value := by
  induction cut with
  | nil cursor => exact ⟨[], .nil cursor, .singleton cursor, rfl⟩
  | @cons cursor next last segment segments ends passes nonempty more inductionHypothesis =>
      obtain ⟨row, matched, moving, same⟩ := inductionHypothesis
      refine ⟨⟨segment.value, next⟩ :: row, .cons ends matched, ?_, congrArg (_ :: ·) same⟩
      exact Match.moving_cons.mpr ⟨passes.ne_nil_iff.mp nonempty, moving⟩

end Cut

theorem Row.exists_cut {row : List (Match τ α)} (matched : rules.Row parser cursor row last)
    (moving : Match.Moving (Match.places cursor row)) :
    ∃ segments, rules.Cut parser cursor segments last ∧
      segments.map Segment.value = row.map Match.value := by
  induction matched with
  | nil cursor => exact ⟨[], .nil cursor, rfl⟩
  | @cons cursor last found row ends more inductionHypothesis =>
      obtain ⟨moved, moving⟩ := Match.moving_cons.mp moving
      obtain ⟨segments, cut, same⟩ := inductionHypothesis moving
      obtain ⟨text, passes⟩ := ends.leads.exists_passes
      exact ⟨⟨text, found.value⟩ :: segments, .cons ends passes (passes.ne_nil_iff.mpr moved) cut,
        congrArg (_ :: ·) same⟩

/-- The repeated parser fails with a mismatch behind the texts, and the repetition ends well. -/
theorem ends_zeroOrMore_ok_iff {gathered : γ} :
    rules.Ends (.zeroOrMore collector parser) cursor (.ok ⟨gathered, last⟩) ↔
      ∃ segments, rules.Cut parser cursor segments last ∧
        gathered = collector.collect (segments.map Segment.value) ∧
        ∃ place expected actual,
          rules.Ends parser last (.error (.mismatch place expected actual)) := by
  rw [ends_zeroOrMore_iff]
  constructor
  · rintro ⟨row, place, repeats⟩
    obtain ⟨⟨remainder, cause⟩, matched, moving, same, fails, recoverable⟩ :=
      repeats_fromZero_ok_iff.mp ⟨place, repeats⟩
    obtain ⟨segments, cut, values⟩ := matched.exists_cut moving
    obtain ⟨expected, actual, rfl⟩ := ParseError.isRecoverable_iff.mp recoverable
    exact ⟨segments, cut, values ▸ same, remainder, expected, actual, fails⟩
  · rintro ⟨segments, cut, same, remainder, expected, actual, fails⟩
    obtain ⟨row, matched, moving, values⟩ := cut.exists_row
    exact ⟨row, repeats_fromZero_ok_iff.mpr ⟨_, matched, moving, values ▸ same, fails, rfl⟩⟩

/-- Behind the texts, the repeated parser stands still or fails with what is no mismatch, and so
does the repetition. -/
theorem ends_zeroOrMore_error_iff :
    rules.Ends (.zeroOrMore collector parser) cursor (.error error) ↔
      ∃ segments last, rules.Cut parser cursor segments last ∧
        ((∃ value, rules.Ends parser last (.ok ⟨value, last⟩)) ∧ error = ⟨last, .noProgress⟩ ∨
          rules.Ends parser last (.error error) ∧ error.isRecoverable = false) := by
  rw [ends_zeroOrMore_iff]
  constructor
  · rintro ⟨row, last, repeats⟩
    obtain ⟨matched, moving, reason⟩ := repeats_fromZero_error_iff.mp repeats
    obtain ⟨segments, cut, _⟩ := matched.exists_cut moving
    exact ⟨segments, last, cut, reason⟩
  · rintro ⟨segments, last, cut, reason⟩
    obtain ⟨row, matched, moving, _⟩ := cut.exists_row
    exact ⟨row, last, repeats_fromZero_error_iff.mpr ⟨matched, moving, reason⟩⟩

/-- At the end of input a failure is noticed nowhere but there. -/
theorem Ends.remainder_eq (ends : rules.Ends parser last (.error error))
    (whole : last.position = last.source.tokens.size) : error.remainder = last := by
  have leads : last.LeadsTo error.remainder := ends.leads
  have further : last.position ≤ error.remainder.position := leads.position
  have within := error.remainder.position_le
  have source := leads.source
  rw [source] at within
  exact Cursor.ext source (by omega)

/-- What parsing a source comes to. The output is there exactly if the parser, from the start,
succeeds with it at the end. If the parser fails, this is the failure, and if it succeeds before
the end, a mismatch is found where it has left off, with the token there in place of the end of
input.

With a repetition from zero, there is an output exactly if the source is cut into texts that the
parser matches one by one and if the parser fails with a mismatch at the end. Otherwise the texts
lead to a place at which it fails with a mismatch though something is left over, which is reported
there, stands still, or fails with what is no mismatch. -/
theorem parses_completely (rules : Rules τ Out) (parser : Parser τ Out α)
    (collector : Collector α γ) (source : Source τ) :
    (∀ value, rules.Parses parser source (.ok value) ↔
      ∃ last, rules.Ends parser (.start source) (.ok ⟨value, last⟩) ∧
        last.position = source.tokens.size) ∧
    (∀ error, rules.Parses parser source (.error error) ↔
      rules.Ends parser (.start source) (.error error) ∨
        ∃ value last token, rules.Ends parser (.start source) (.ok ⟨value, last⟩) ∧
          source.tokens[last.position]? = some token ∧
          error = .mismatch last "EOF" (Token.describe token)) ∧
    (∀ gathered, rules.Parses (.zeroOrMore collector parser) source (.ok gathered) ↔
      ∃ segments last expected actual, rules.Cut parser (.start source) segments last ∧
        (segments.map Segment.text).flatten = source.tokens.toList ∧
        gathered = collector.collect (segments.map Segment.value) ∧
        last.position = source.tokens.size ∧
        rules.Ends parser last (.error (.mismatch last expected actual))) ∧
    ∀ error, rules.Parses (.zeroOrMore collector parser) source (.error error) ↔
      ∃ segments last, rules.Cut parser (.start source) segments last ∧
        ((∃ place expected actual token,
            rules.Ends parser last (.error (.mismatch place expected actual)) ∧
            source.tokens[last.position]? = some token ∧
            error = .mismatch last "EOF" (Token.describe token)) ∨
          (∃ value, rules.Ends parser last (.ok ⟨value, last⟩)) ∧ error = ⟨last, .noProgress⟩ ∨
          rules.Ends parser last (.error error) ∧ error.isRecoverable = false) := by
  refine ⟨fun value => parses_ok_iff, fun error => parses_error_iff, ?succeeds, ?fails⟩
  case succeeds =>
    intro gathered
    rw [parses_ok_iff]
    constructor
    · rintro ⟨last, ends, whole⟩
      obtain ⟨segments, cut, same, place, expected, actual, fails⟩ := ends_zeroOrMore_ok_iff.mp ends
      have here : place = last := fails.remainder_eq (by rw [ends.source_eq, whole])
      exact ⟨segments, last, expected, actual, cut, cut.flatten_eq_iff.mpr whole, same, whole,
        here ▸ fails⟩
    · rintro ⟨segments, last, expected, actual, cut, _, same, whole, fails⟩
      exact ⟨last, ends_zeroOrMore_ok_iff.mpr ⟨segments, cut, same, _, _, _, fails⟩, whole⟩
  case fails =>
    intro error
    rw [parses_error_iff]
    constructor
    · rintro (fails | ⟨gathered, last, token, ends, next, same⟩)
      · obtain ⟨segments, last, cut, reason⟩ := ends_zeroOrMore_error_iff.mp fails
        exact ⟨segments, last, cut, .inr reason⟩
      · obtain ⟨segments, cut, _, place, expected, actual, fails⟩ := ends_zeroOrMore_ok_iff.mp ends
        exact ⟨segments, last, cut, .inl ⟨place, expected, actual, token, fails, next, same⟩⟩
    · rintro ⟨segments, last, cut, ⟨place, expected, actual, token, fails, next, same⟩ | reason⟩
      · have ends : rules.Ends (.zeroOrMore collector parser) (.start source)
            (.ok ⟨collector.collect (segments.map Segment.value), last⟩) :=
          ends_zeroOrMore_ok_iff.mpr ⟨segments, cut, rfl, place, expected, actual, fails⟩
        exact .inr ⟨_, last, token, ends, next, same⟩
      · exact .inl (ends_zeroOrMore_error_iff.mpr ⟨segments, last, cut, reason⟩)

end Rules

end Descent
