import Descent.Proofs.Diagnosis
import Descent.Proofs.Equality
import Descent.Proofs.Equivalence
import Descent.Proofs.Layout

/-!
# Runs of tokens, at once and token by token

A run of tokens may be read at once, or as one token after another. Both look for tokens in the
input that are equal to those of the run, where equality is that of the tokens and may be coarser
than identity. So they succeed on the same inputs and get to the same place; but the run that is
read at once gives itself as output, and single tokens are given as they stand in the input.

Where they fail, they differ in the place: a run that is read at once is missed as a whole, in
front of it, and single tokens are missed behind those that are there.
-/

namespace Descent

variable {τ ρ : Type} {Out : ρ → Type} [Token τ]

/-- A run of tokens, one token after another. -/
def Parser.tokenwise : List τ → Parser τ Out (List τ)
  | [] => .pure []
  | wanted :: run =>
      .map none (fun outputs => outputs.1 :: outputs.2) (.both (.token wanted) (tokenwise run))

namespace Cursor

/-- Between the cursors stand tokens that are equal to those of a run, one by one. -/
structure Meets (cursor : Cursor τ) (run text : List τ) (next : Cursor τ) : Prop where
  passes : cursor.Passes text next
  equal : List.Forall₂ EqualTokens text run

/-- What is left starts with tokens that are equal to those of a run, one by one. -/
def StartsWith (cursor : Cursor τ) (run : List τ) : Prop :=
  ∃ text next, cursor.Meets run text next

/-- What is left starts with so much of a run, and with no more of it. -/
structure StartsOnlyWith (cursor : Cursor τ) (run front : List τ) : Prop where
  inRun : front <+: run
  startsWith : cursor.StartsWith front
  longest : ∀ other, other <+: run → cursor.StartsWith other → other.length ≤ front.length

/-- Of a run, some tokens are met and the next one is not. -/
structure Misses (cursor : Cursor τ) (run front : List τ) (wanted : τ) (next : Cursor τ) :
    Prop where
  inRun : front ++ [wanted] <+: run
  met : ∃ text, cursor.Meets front text next
  missed : ¬ next.StartsWith [wanted]

variable {cursor next : Cursor τ} {run front back text : List τ} {wanted : τ}

omit [Token τ] in
/-- The next tokens stand before the cursor that is so many tokens further on. -/
theorem passes_window (cursor : Cursor τ) (count : Nat) :
    cursor.Passes (cursor.window count) (cursor.advance count) := by
  have steps : (cursor.advance count).position - cursor.position =
      min count cursor.remaining.length := by
    have within := cursor.position_le_length
    rw [position_advance, length_remaining, remainingLength]
    omega
  refine ⟨rfl, ?_⟩
  rw [(cursor.leadsTo_advance count).remaining_eq, steps, window_eq_take, List.take_eq_take_min,
    List.take_append_drop]

omit [Token τ] in
theorem Passes.eq_window (passes : cursor.Passes text next) :
    text = cursor.window text.length := by
  rw [window_eq_take, passes.remaining, List.take_left]

/-! ## Runs that are met -/

theorem meets_nil_iff : cursor.Meets [] text next ↔ text = [] ∧ next = cursor := by
  constructor
  · rintro ⟨passes, equal⟩
    cases equal
    exact ⟨rfl, passes.eq_of_nil⟩
  · rintro ⟨rfl, rfl⟩
    exact ⟨.refl _, .nil⟩

theorem meets_singleton_iff :
    cursor.Meets [wanted] text next ↔
      ∃ token, cursor.peek = some (token, next) ∧ (token == wanted) = true ∧ text = [token] := by
  constructor
  · rintro ⟨passes, equal⟩
    obtain ⟨token, rest, same, nothing, rfl⟩ := List.forall₂_cons_right_iff.mp equal
    cases nothing
    exact ⟨token, peek_eq_some_iff.mpr passes, same, rfl⟩
  · rintro ⟨token, seen, same, rfl⟩
    exact ⟨passes_of_peek seen, .cons same .nil⟩

/-- A run in two parts is met if its second part is met behind the first one. -/
theorem meets_append_iff :
    cursor.Meets (front ++ back) text next ↔
      ∃ ahead between behind, cursor.Meets front ahead between ∧ between.Meets back behind next ∧
        text = ahead ++ behind := by
  constructor
  · rintro ⟨passes, equal⟩
    have aheadEqual := List.forall₂_take_append _ _ _ equal
    have behindEqual := List.forall₂_drop_append _ _ _ equal
    rw [← List.take_append_drop front.length text] at passes
    obtain ⟨between, near, far⟩ := passes.split
    exact ⟨_, between, _, ⟨near, aheadEqual⟩, ⟨far, behindEqual⟩,
      (List.take_append_drop _ _).symm⟩
  · rintro ⟨ahead, between, behind, ⟨near, nearEqual⟩, ⟨far, farEqual⟩, rfl⟩
    exact ⟨near.trans far, List.rel_append nearEqual farEqual⟩

/-- A run is met by the next tokens, as many as it has itself. -/
theorem Meets.eq_window (meets : cursor.Meets run text next) :
    text = cursor.window run.length ∧ next = cursor.advance run.length := by
  have whole := meets.passes.eq_window
  rw [meets.equal.length_eq] at whole
  refine ⟨whole, ?_⟩
  subst whole
  exact meets.passes.eq_of (cursor.passes_window run.length)

theorem startsWith_append (starts : cursor.StartsWith (front ++ back)) :
    cursor.StartsWith front := by
  obtain ⟨text, next, meets⟩ := starts
  obtain ⟨ahead, between, _, meetsAhead, _⟩ := meets_append_iff.mp meets
  exact ⟨ahead, between, meetsAhead⟩

theorem beq_iff_equalTokens : (text == run) = true ↔ List.Forall₂ EqualTokens text run := by
  induction text generalizing run with
  | nil => cases run <;> simp
  | cons token text inductionHypothesis =>
      cases run with
      | nil => simp
      | cons wanted run =>
          rw [List.cons_beq_cons, Bool.and_eq_true, inductionHypothesis, List.forall₂_cons]
          rfl

/-- The run is compared with as many tokens as it has, or with all that are left. -/
theorem startsWith_iff_window :
    cursor.StartsWith run ↔ (cursor.window run.length == run) = true := by
  rw [beq_iff_equalTokens]
  constructor
  · rintro ⟨text, next, meets⟩
    rw [← meets.eq_window.1]
    exact meets.equal
  · intro equal
    exact ⟨_, _, cursor.passes_window run.length, equal⟩

/-! ## Runs that are missed -/

/-- What is left starts with those tokens of the run that are met, and with no more of it. -/
theorem Misses.startsOnlyWith (misses : cursor.Misses run front wanted next) :
    cursor.StartsOnlyWith run front ∧ next = cursor.advance front.length := by
  obtain ⟨inRun, ⟨text, meets⟩, missed⟩ := misses
  refine ⟨⟨?inRun, ⟨text, next, meets⟩, ?longest⟩, meets.eq_window.2⟩
  case inRun => exact (List.prefix_append front [wanted]).trans inRun
  case longest =>
    intro other otherInRun starts
    apply Nat.not_lt.mp
    intro longer
    obtain ⟨back, rfl⟩ : front ++ [wanted] <+: other :=
      List.prefix_of_prefix_length_le inRun otherInRun (by rw [List.length_append]; exact longer)
    obtain ⟨whole, place, wholeMeets⟩ := startsWith_append starts
    obtain ⟨ahead, between, behind, aheadMeets, behindMeets, _⟩ := meets_append_iff.mp wholeMeets
    rw [aheadMeets.eq_window.2, ← meets.eq_window.2] at behindMeets
    exact missed ⟨behind, place, behindMeets⟩

theorem Misses.not_startsWith (misses : cursor.Misses run front wanted next) :
    ¬ cursor.StartsWith run := by
  intro starts
  have longest := misses.startsOnlyWith.1.longest run (List.prefix_refl run) starts
  have longer := misses.inRun.length_le
  rw [List.length_append, List.length_singleton] at longer
  omega

theorem Misses.cons {first : τ} {between : Cursor τ} (meets : cursor.Meets [first] text between)
    (misses : between.Misses run front wanted next) :
    cursor.Misses (first :: run) (first :: front) wanted next where
  inRun := List.cons_prefix_cons.mpr ⟨rfl, misses.inRun⟩
  met := by
    obtain ⟨behind, behindMeets⟩ := misses.met
    exact ⟨text ++ behind, meets_append_iff.mpr ⟨text, between, behind, meets, behindMeets, rfl⟩⟩
  missed := misses.missed

end Cursor

namespace Reading

variable {cursor : Cursor τ}

/-! ## How runs are read -/

theorem tokens_eq_ok {run : List τ} {found : Match τ (List τ)} :
    Reading.tokens run cursor = some (.ok found) ↔
      cursor.StartsWith run ∧ found = ⟨run, cursor.advance run.length⟩ := by
  rw [Cursor.startsWith_iff_window]
  cases same : cursor.window run.length == run with
  | true =>
      have length := (Cursor.beq_iff_equalTokens.mp same).length_eq
      simp only [Reading.tokens, same, length, ↓reduceIte, true_and, Option.some.injEq,
        Except.ok.injEq]
      exact eq_comm
  | false => simp [Reading.tokens, same]

theorem tokens_eq_error {run : List τ} {error : ParseError τ} :
    Reading.tokens run cursor = some (.error error) ↔
      ¬ cursor.StartsWith run ∧
        error = .mismatch cursor (Token.describeAll run) (cursor.shown run.length) := by
  rw [Cursor.startsWith_iff_window]
  cases same : cursor.window run.length == run with
  | true => simp [Reading.tokens, same]
  | false =>
      simp only [Reading.tokens, same, Bool.false_eq_true, ↓reduceIte, not_false_eq_true, true_and,
        Option.some.injEq, Except.error.injEq]
      exact eq_comm

/-- A single token is there, or it is missed where it should be. -/
theorem token_reads (wanted : τ) (cursor : Cursor τ) :
    (∃ token next, cursor.Meets [wanted] [token] next ∧
      satisfy (Token.describe wanted) (· == wanted) cursor = some (.ok ⟨token, next⟩)) ∨
    ¬ cursor.StartsWith [wanted] ∧
      satisfy (Token.describe wanted) (· == wanted) cursor =
        some (.error (.unexpected cursor (Token.describe wanted))) := by
  by_cases starts : cursor.StartsWith [wanted]
  · obtain ⟨_, next, meets⟩ := starts
    obtain ⟨token, seen, same, rfl⟩ := Cursor.meets_singleton_iff.mp meets
    exact .inl ⟨token, next, meets, satisfy_eq_ok.mpr ⟨seen, same⟩⟩
  · refine .inr ⟨starts, ?_⟩
    cases seen : cursor.peek with
    | none => simp only [satisfy, seen]
    | some found =>
        obtain ⟨token, next⟩ := found
        have differs : ¬ (token == wanted) = true := fun same =>
          starts ⟨[token], next, Cursor.meets_singleton_iff.mpr ⟨token, seen, same, rfl⟩⟩
        simp only [satisfy, seen, differs, Bool.false_eq_true, ↓reduceIte]

theorem reading_tokenwise_cons (rules : Rules τ Out) (depth : Nat) (wanted : τ) (run : List τ) :
    rules.reading depth (.tokenwise (wanted :: run)) =
      .map (fun outputs => outputs.1 :: outputs.2)
        (.sequence Prod.mk (.satisfy (Token.describe wanted) (· == wanted))
          (rules.reading depth (.tokenwise run))) := rfl

/-- A run is met token by token, and the tokens of the input are the output, or one of its tokens
is missed behind those that are met. -/
theorem tokenwise_reads (rules : Rules τ Out) (depth : Nat) (run : List τ) (cursor : Cursor τ) :
    (∃ text next, cursor.Meets run text next ∧
      rules.reading depth (.tokenwise run) cursor = some (.ok ⟨text, next⟩)) ∨
    ∃ front wanted next, cursor.Misses run front wanted next ∧
      rules.reading depth (.tokenwise run) cursor =
        some (.error (.unexpected next (Token.describe wanted))) := by
  induction run generalizing cursor with
  | nil => exact .inl ⟨[], cursor, Cursor.meets_nil_iff.mpr ⟨rfl, rfl⟩, rfl⟩
  | cons wanted run inductionHypothesis =>
      rw [reading_tokenwise_cons]
      rcases token_reads wanted cursor with ⟨token, between, meets, read⟩ | ⟨missed, failed⟩
      case inr =>
        refine .inr ⟨[], wanted, cursor, ?_, map_eq_error.mpr (sequence_eq_error.mpr (.inl failed))⟩
        exact ⟨List.prefix_append [wanted] run, ⟨[], Cursor.meets_nil_iff.mpr ⟨rfl, rfl⟩⟩, missed⟩
      rcases inductionHypothesis between with
        ⟨text, next, others, otherRead⟩ | ⟨front, missing, next, misses, otherFailed⟩
      · refine .inl ⟨token :: text, next, ?_, ?_⟩
        · exact Cursor.meets_append_iff.mpr ⟨[token], between, text, meets, others, rfl⟩
        · exact map_eq_ok.mpr ⟨_, sequence_eq_ok.mpr ⟨_, _, read, otherRead, rfl⟩, rfl⟩
      · refine .inr ⟨wanted :: front, missing, next, misses.cons meets, ?_⟩
        exact map_eq_error.mpr (sequence_eq_error.mpr (.inr ⟨_, read, otherFailed⟩))

end Reading

theorem ParseError.unexpected_eq_mismatch (cursor : Cursor τ) (expected : String) :
    ∃ actual, ParseError.unexpected cursor expected = .mismatch cursor expected actual := by
  simp only [unexpected]
  split
  · exact ⟨_, rfl⟩
  · exact ⟨_, rfl⟩

/-- Where some tokens are asked for, there are none of them only at the end of input. -/
theorem Cursor.shown_eq (cursor : Cursor τ) {count : Nat} (positive : 0 < count) :
    cursor.shown count =
      if cursor.atEnd then endOfInput else Token.describeAll (cursor.window count) := by
  obtain ⟨more, rfl⟩ := Nat.exists_eq_add_of_lt positive
  rw [shown, atEnd_eq, window_eq_take]
  cases cursor.remaining with
  | nil => rfl
  | cons token rest => simp [List.take_succ_cons]

/-- Characters are shown as the text that they make. -/
theorem Token.describeAll_characters (characters : List Char) :
    Token.describeAll characters = String.ofList characters := by
  induction characters with
  | nil => rfl
  | cons character characters inductionHypothesis =>
      rw [joins_scalars.1] at inductionHypothesis ⊢
      cases characters with
      | nil => exact String.intercalate_singleton
      | cons other characters =>
          rw [List.map_cons, String.intercalate_cons_of_ne_nil (by simp), inductionHypothesis]
          simp [describe, separator]

namespace Rules

variable {rules : Rules τ Out} {run : List τ} {cursor : Cursor τ}

/-- A run is read at once without any rules. -/
theorem ends_tokens_iff {outcome : Outcome τ (List τ)} :
    rules.Ends (.tokens run) cursor outcome ↔ Reading.tokens run cursor = some outcome := by
  rw [ends_iff_reading]
  constructor
  · rintro ⟨_, read⟩
    exact read
  · intro read
    exact ⟨0, read⟩

theorem ends_tokens_ok_iff {found : Match τ (List τ)} :
    rules.Ends (.tokens run) cursor (.ok found) ↔
      cursor.StartsWith run ∧ found = ⟨run, cursor.advance run.length⟩ := by
  rw [ends_tokens_iff, Reading.tokens_eq_ok]

/-- No run is missed that has no tokens, so what is shown ends only where the input does. -/
theorem ends_tokens_error_iff {error : ParseError τ} :
    rules.Ends (.tokens run) cursor (.error error) ↔
      ¬ cursor.StartsWith run ∧
        error = .mismatch cursor (Token.describeAll run)
          (if cursor.atEnd then endOfInput else Token.describeAll (cursor.window run.length)) := by
  rw [ends_tokens_iff, Reading.tokens_eq_error]
  apply and_congr_right
  intro missed
  have positive : 0 < run.length := by
    apply List.length_pos_iff.mpr
    rintro rfl
    exact missed ⟨[], cursor, Cursor.meets_nil_iff.mpr ⟨rfl, rfl⟩⟩
  rw [cursor.shown_eq positive]

/-- A text is read as the run of its characters, and is the output itself. -/
theorem ends_string_ok_iff {rules : Rules Char Out} {text : String} {cursor : Cursor Char}
    {found : Match Char String} :
    rules.Ends (.string text) cursor (.ok found) ↔
      found.value = text ∧
        rules.Ends (.tokens text.toList) cursor (.ok ⟨text.toList, found.rest⟩) := by
  have shown : Token.describeAll text.toList = text := by
    rw [Token.describeAll_characters, String.ofList_toList]
  constructor
  · intro ends
    obtain ⟨depth, read⟩ := ends_iff_reading.mp ends
    obtain ⟨before, beforeRead, rfl⟩ := Reading.map_eq_ok.mp read
    obtain ⟨_, rfl⟩ := Reading.tokens_eq_ok.mp beforeRead
    exact ⟨shown, ends_tokens_iff.mpr beforeRead⟩
  · obtain ⟨value, rest⟩ := found
    rintro ⟨rfl, ends⟩
    refine ends_iff_reading.mpr ⟨0, Reading.map_eq_ok.mpr ⟨_, ends_tokens_iff.mp ends, ?_⟩⟩
    rw [shown]

/-- A run is met token by token, or one of its tokens is missed, whatever the rules are. -/
theorem ends_tokenwise (rules : Rules τ Out) (run : List τ) (cursor : Cursor τ) :
    (∃ text next, cursor.Meets run text next ∧
      rules.Ends (.tokenwise run) cursor (.ok ⟨text, next⟩)) ∨
    ∃ front wanted next, cursor.Misses run front wanted next ∧
      rules.Ends (.tokenwise run) cursor (.error (.unexpected next (Token.describe wanted))) := by
  rcases Reading.tokenwise_reads rules 0 run cursor with
    ⟨text, next, meets, read⟩ | ⟨front, wanted, next, misses, failed⟩
  · exact .inl ⟨text, next, meets, ends_of_reading read⟩
  · exact .inr ⟨front, wanted, next, misses, ends_of_reading failed⟩

theorem ends_tokenwise_ok_iff {found : Match τ (List τ)} :
    rules.Ends (.tokenwise run) cursor (.ok found) ↔
      cursor.StartsWith run ∧
        found = ⟨cursor.window run.length, cursor.advance run.length⟩ := by
  rcases ends_tokenwise rules run cursor with
    ⟨text, next, meets, ends⟩ | ⟨front, wanted, next, misses, failed⟩
  · obtain ⟨rfl, rfl⟩ := meets.eq_window
    constructor
    · intro otherEnds
      cases ends.unique otherEnds
      exact ⟨⟨_, _, meets⟩, rfl⟩
    · rintro ⟨_, rfl⟩
      exact ends
  · constructor
    · intro otherEnds
      cases failed.unique otherEnds
    · rintro ⟨starts, _⟩
      exact absurd starts misses.not_startsWith

theorem ends_tokenwise_of_missed (missed : ¬ cursor.StartsWith run) :
    ∃ front wanted actual, cursor.StartsOnlyWith run front ∧ front ++ [wanted] <+: run ∧
      rules.Ends (.tokenwise run) cursor
        (.error (.mismatch (cursor.advance front.length) (Token.describe wanted) actual)) := by
  rcases ends_tokenwise rules run cursor with
    ⟨text, next, meets, _⟩ | ⟨front, wanted, next, misses, failed⟩
  · exact absurd ⟨text, next, meets⟩ missed
  · obtain ⟨only, rfl⟩ := misses.startsOnlyWith
    obtain ⟨actual, same⟩ := ParseError.unexpected_eq_mismatch
      (cursor.advance front.length) (Token.describe wanted)
    rw [same] at failed
    exact ⟨front, wanted, actual, only, misses.inRun, failed⟩

/-- A run of tokens may be read at once or token by token. Both succeed exactly where what is left
starts with tokens that are equal to those of the run, one by one, and both end as many tokens
further on as the run has. The output is the run itself in the one case and the tokens of the
input in the other. Elsewhere both fail with a mismatch: token by token behind those tokens of the
run that are there and as many as can be, at once in front of the run, which is missed as a whole;
all tokens are shown that stand in its place, or that there is none. A text is read as its
characters are at once, and it is the output. -/
theorem tokens_all_or_none (rules : Rules τ Out) (run : List τ) (cursor : Cursor τ) :
    (∀ found, rules.Ends (.tokens run) cursor (.ok found) ↔
      cursor.StartsWith run ∧ found = ⟨run, cursor.advance run.length⟩) ∧
    (∀ found, rules.Ends (.tokenwise run) cursor (.ok found) ↔
      cursor.StartsWith run ∧
        found = ⟨cursor.window run.length, cursor.advance run.length⟩) ∧
    (cursor.StartsWith run →
      List.Forall₂ EqualTokens (cursor.window run.length) run ∧
        (cursor.advance run.length).position = cursor.position + run.length) ∧
    (∀ error, rules.Ends (.tokens run) cursor (.error error) ↔
      ¬ cursor.StartsWith run ∧
        error = .mismatch cursor (Token.describeAll run)
          (if cursor.atEnd then endOfInput else Token.describeAll (cursor.window run.length))) ∧
    (¬ cursor.StartsWith run → ∃ (front : List τ) (wanted : τ) (actual : String),
      cursor.StartsOnlyWith run front ∧ front ++ [wanted] <+: run ∧
        rules.Ends (.tokenwise run) cursor
          (.error (.mismatch (cursor.advance front.length) (Token.describe wanted) actual))) ∧
    ∀ (textRules : Rules Char Out) (text : String) (start : Cursor Char),
      (∀ found, textRules.Ends (.string text) start (.ok found) ↔
        found.value = text ∧
          textRules.Ends (.tokens text.toList) start (.ok ⟨text.toList, found.rest⟩)) ∧
      ∀ error, textRules.Ends (.string text) start (.error error) ↔
        textRules.Ends (.tokens text.toList) start (.error error) := by
  refine ⟨fun found => ends_tokens_ok_iff, fun found => ends_tokenwise_ok_iff, ?place,
    fun error => ends_tokens_error_iff, ends_tokenwise_of_missed, ?text⟩
  case place =>
    rintro ⟨text, next, meets⟩
    obtain ⟨rfl, rfl⟩ := meets.eq_window
    refine ⟨meets.equal, ?_⟩
    rw [meets.passes.position_eq, meets.equal.length_eq]
  case text =>
    intro textRules text start
    refine ⟨fun found => ends_string_ok_iff, fun error => ?_⟩
    rw [ends_iff_reading, ends_iff_reading]
    exact exists_congr fun depth => Reading.map_eq_error

/-- Where the second bracket is missing, the run is missed in front of both, and the bracket behind
the first one. -/
example :
    brackets.reading 0 (.tokens ['[', '[']) (.start ⟨0, #['[', '.']⟩) =
        some (.error (.mismatch (.start ⟨0, #['[', '.']⟩) "[[" "[.")) ∧
      brackets.reading 0 (.tokenwise ['[', '[']) (.start ⟨0, #['[', '.']⟩) =
        some (.error (.mismatch ⟨⟨0, #['[', '.']⟩, 1, by decide⟩ "[" ".")) :=
  ⟨rfl, rfl⟩

end Rules

end Descent
