import Descent.Proofs.Position
import Mathlib.Data.List.Chain

/-!
# What loops take

A loop takes matches, one behind the other, until something stops it. What it has gathered by
then are the outputs of these matches, and what it has logged is what was logged on the way:
so the log tells how often the repeated parser was run, and where.

The three loops differ in what stops them, and the two that may go on after a failure are taken
together here, as one loop with a limit or without. Everything below is about single attempts
and holds whatever these remember.
-/

namespace Descent

variable {τ α γ : Type}

/-- The places between matches in a row: where the first one starts, and where each ends. -/
def Match.places (cursor : Cursor τ) (row : List (Match τ α)) : List (Cursor τ) :=
  cursor :: row.map Match.rest

/-- The place behind matches in a row. -/
def Match.behind (cursor : Cursor τ) : List (Match τ α) → Cursor τ
  | [] => cursor
  | found :: row => behind found.rest row

/-- No match in the row is empty: next to each other stand different places only. -/
def Match.Moving (places : List (Cursor τ)) : Prop :=
  places.IsChain fun before behind => behind ≠ before

theorem Match.moving_cons {cursor : Cursor τ} {found : Match τ α} {row : List (Match τ α)} :
    Match.Moving (Match.places cursor (found :: row)) ↔
      found.rest ≠ cursor ∧ Match.Moving (Match.places found.rest row) :=
  List.isChain_cons_cons

/-- Behind the matches in front, the places are those of the matches that follow. -/
theorem Match.drop_places (cursor : Cursor τ) (row others : List (Match τ α)) :
    (Match.places cursor (row ++ others)).drop row.length =
      Match.places (Match.behind cursor row) others := by
  induction row generalizing cursor with
  | nil => rfl
  | cons found row inductionHypothesis => exact inductionHypothesis found.rest

/-- The last place is the one behind all matches. -/
theorem Match.places_eq (cursor : Cursor τ) (row : List (Match τ α)) :
    Match.places cursor row =
      (Match.places cursor row).dropLast ++ [Match.behind cursor row] := by
  induction row generalizing cursor with
  | nil => rfl
  | cons found row inductionHypothesis =>
      exact congrArg (cursor :: ·) (inductionHypothesis found.rest)

/-- The positions at which parsers were started that are tapped with a label, in order. -/
def Log.visits (label : String) (log : Log) : List Nat :=
  log.toList.filterMap fun
    | .visited name position => if name = label then some position else none
    | _ => none

@[simp] theorem Log.visits_empty (label : String) : Log.visits label #[] = [] := rfl

@[simp] theorem Log.visits_append (label : String) (log later : Log) :
    Log.visits label (log ++ later) = Log.visits label log ++ Log.visits label later := by
  simp [Log.visits]

namespace Attempt

/-- The attempt reads on: it leaves off at its start or behind it, in the same source. -/
def Forward (attempt : Attempt τ α) : Prop :=
  ∀ site memory cursor reply,
    attempt site memory cursor = some reply → cursor.LeadsTo reply.outcome.place

/-- Each time the attempt is made, the label is logged with its position, and once only. -/
def Tapped (attempt : Attempt τ α) (label : String) : Prop :=
  ∀ site memory cursor reply,
    attempt site memory cursor = some reply → reply.log.visits label = [cursor.position]

namespace Loop

/-- The loop takes these matches, one behind the other, and stands behind the last of them. -/
inductive Takes (attempt : Attempt τ α) (push : γ → α → γ) (site : Site) :
    Loop τ γ → List (Match τ α) → Loop τ γ → Prop where
  | nil (loop : Loop τ γ) : Takes attempt push site loop [] loop
  | cons {loop last : Loop τ γ} {found : Match τ α} {memory : Memory} {log : Log}
      {row : List (Match τ α)}
      (replies : attempt site loop.memory loop.cursor = some ⟨.ok found, memory, log⟩)
      (more : Takes attempt push site (loop.step push found memory log) row last) :
      Takes attempt push site loop (found :: row) last

/-- The loop ends here, with as many more matches allowed as the limit says. It ends well at its
limit or with a mismatch. Any other failure is the failure of the loop, and so is a match of
nothing where there is no limit. -/
inductive Halts (attempt : Attempt τ α) (site : Site) :
    Option Nat → Loop τ γ → Reply τ γ → Prop where
  | full (loop : Loop τ γ) : Halts attempt site (some 0) loop (loop.succeed loop.memory #[])
  | mismatch {limit : Option Nat} {loop : Loop τ γ} {error : ParseError τ} {memory : Memory}
      {log : Log} (notFull : limit ≠ some 0)
      (replies : attempt site loop.memory loop.cursor = some ⟨.error error, memory, log⟩)
      (recoverable : error.isRecoverable = true) :
      Halts attempt site limit loop (loop.succeed memory log)
  | failure {limit : Option Nat} {loop : Loop τ γ} {error : ParseError τ} {memory : Memory}
      {log : Log} (notFull : limit ≠ some 0)
      (replies : attempt site loop.memory loop.cursor = some ⟨.error error, memory, log⟩)
      (final : error.isRecoverable = false) :
      Halts attempt site limit loop (loop.abort error memory log)
  | standstill {loop : Loop τ γ} {found : Match τ α} {memory : Memory} {log : Log}
      (replies : attempt site loop.memory loop.cursor = some ⟨.ok found, memory, log⟩)
      (still : found.rest = loop.cursor) :
      Halts attempt site none loop (loop.abort ⟨loop.cursor, .noProgress⟩ memory log)

/-- The loop after the matches that are required: up to a limit, or without one. -/
def extra (attempt : Attempt τ α) (push : γ → α → γ) (site : Site) :
    Option Nat → Loop τ γ → Option (Reply τ γ)
  | none => unlimited attempt push site
  | some limit => limited attempt push site limit

variable {attempt : Attempt τ α} {push : γ → α → γ} {site : Site}
variable {loop middle last : Loop τ γ} {row others : List (Match τ α)} {reply : Reply τ γ}

/-! ## Matches in a row -/

namespace Takes

theorem append (takes : Takes attempt push site loop row middle)
    (more : Takes attempt push site middle others last) :
    Takes attempt push site loop (row ++ others) last := by
  induction takes with
  | nil loop => exact more
  | cons replies _ inductionHypothesis => exact .cons replies (inductionHypothesis more)

/-- What is taken in a row is taken in two rows. -/
theorem split (takes : Takes attempt push site loop (row ++ others) last) :
    ∃ middle, Takes attempt push site loop row middle ∧
      Takes attempt push site middle others last := by
  induction row generalizing loop with
  | nil => exact ⟨loop, .nil loop, takes⟩
  | cons found row inductionHypothesis =>
      cases takes with
      | cons replies more =>
          obtain ⟨middle, front, back⟩ := inductionHypothesis more
          exact ⟨middle, .cons replies front, back⟩

theorem items_eq (takes : Takes attempt push site loop row last) :
    last.items = (row.map Match.value).foldl push loop.items := by
  induction takes with
  | nil loop => rfl
  | cons replies more inductionHypothesis => exact inductionHypothesis

theorem cursor_eq (takes : Takes attempt push site loop row last) :
    last.cursor = Match.behind loop.cursor row := by
  induction takes with
  | nil loop => rfl
  | cons replies more inductionHypothesis => exact inductionHypothesis

/-- Every match was looked for once, at the place where it starts. -/
theorem visits_eq {label : String} (tapped : attempt.Tapped label)
    (takes : Takes attempt push site loop row last) :
    last.log.visits label = loop.log.visits label ++
      (Match.places loop.cursor row).dropLast.map Cursor.position := by
  induction takes with
  | nil loop => simp [Match.places]
  | @cons loop last found memory log row replies more inductionHypothesis =>
      rw [inductionHypothesis]
      simp [step, Match.places, tapped _ _ _ _ replies]

end Takes

/-- Where the loop ends, the attempt is made once more, unless the limit is reached. -/
theorem Halts.visits_eq {label : String} {limit : Option Nat} (tapped : attempt.Tapped label)
    (halts : Halts attempt site limit last reply) :
    reply.log.visits label = last.log.visits label ++
      if limit = some 0 then [] else [last.cursor.position] := by
  cases halts with
  | full => simp [succeed]
  | mismatch notFull replies recoverable =>
      rw [if_neg notFull]
      simp [succeed, tapped _ _ _ _ replies]
  | failure notFull replies final =>
      rw [if_neg notFull]
      simp [abort, tapped _ _ _ _ replies]
  | standstill replies still => simp [abort, tapped _ _ _ _ replies]

/-! ## Loops that may go on after a failure -/

section Extra

/-- Two places of one source are told apart by the loop exactly if they are different. -/
theorem beq_eq_false (forward : attempt.Forward) {cursor : Cursor τ} {found : Match τ α}
    {before memory : Memory} {log : Log}
    (replies : attempt site before cursor = some ⟨.ok found, memory, log⟩) :
    (found.rest == cursor) = false ↔ found.rest ≠ cursor := by
  have leads : cursor.LeadsTo found.rest := forward _ _ _ _ replies
  rw [Bool.eq_false_iff, ne_eq, leads.beq_iff]

theorem shortens (forward : attempt.Forward) : attempt.Shortens := by
  intro site before cursor found memory log replies moved
  have leads : cursor.LeadsTo found.rest := forward _ _ _ _ replies
  exact leads.remainingLength_lt ((beq_eq_false forward replies).mp moved)

theorem unlimited_of_takes (forward : attempt.Forward)
    (takes : Takes attempt push site loop row last)
    (moving : Match.Moving (Match.places loop.cursor row)) :
    loop.unlimited attempt push site = last.unlimited attempt push site := by
  induction takes with
  | nil loop => rfl
  | @cons loop last found memory log row replies more inductionHypothesis =>
      obtain ⟨moved, rest⟩ := Match.moving_cons.mp moving
      rw [unlimited_of_shortens (shortens forward), replies]
      simp only [(beq_eq_false forward replies).mpr moved, Bool.false_eq_true, ↓reduceIte]
      exact inductionHypothesis rest

theorem limited_of_takes (takes : Takes attempt push site loop row last) (limit : Nat) :
    loop.limited attempt push site (row.length + limit) =
      last.limited attempt push site limit := by
  induction takes with
  | nil loop => rw [List.length_nil, Nat.zero_add]
  | @cons loop last found memory log row replies more inductionHypothesis =>
      rw [List.length_cons, Nat.add_right_comm, limited, replies]
      exact inductionHypothesis

/-- The loop goes on behind matches as it would have from there, with fewer left to take. -/
theorem extra_of_takes (forward : attempt.Forward) {limit : Option Nat}
    (takes : Takes attempt push site loop row last)
    (moving : limit = none → Match.Moving (Match.places loop.cursor row))
    (within : ∀ most, limit = some most → row.length ≤ most) :
    loop.extra attempt push site limit =
      last.extra attempt push site (limit.map (· - row.length)) := by
  cases limit with
  | none => exact unlimited_of_takes forward takes (moving rfl)
  | some most =>
      have goes := limited_of_takes takes (most - row.length)
      rw [Nat.add_sub_cancel' (within most rfl)] at goes
      exact goes

section Failure

variable {limit : Option Nat} {error : ParseError τ} {memory : Memory} {log : Log}

/-- Where the attempt fails, the loop ends at once, unless it has reached its limit before. -/
theorem extra_of_error (notFull : limit ≠ some 0)
    (replies : attempt site loop.memory loop.cursor = some ⟨.error error, memory, log⟩) :
    loop.extra attempt push site limit =
      if error.isRecoverable then some (loop.succeed memory log)
      else some (loop.abort error memory log) := by
  match limit with
  | none => rw [extra, unlimited, replies]
  | some (most + 1) => rw [extra, limited, replies]
  | some 0 => exact absurd rfl notFull

theorem Halts.of_error (notFull : limit ≠ some 0)
    (answers : attempt site loop.memory loop.cursor = some ⟨.error error, memory, log⟩)
    (replies : loop.extra attempt push site limit = some reply) :
    Halts attempt site limit loop reply := by
  rw [extra_of_error notFull answers] at replies
  split at replies
  · next recoverable =>
      cases replies
      exact .mismatch notFull answers recoverable
  · next final =>
      cases replies
      exact .failure notFull answers (Bool.eq_false_iff.mpr final)

end Failure

theorem extra_of_halts (forward : attempt.Forward) {limit : Option Nat}
    (halts : Halts attempt site limit last reply) :
    last.extra attempt push site limit = some reply := by
  cases halts with
  | full => rfl
  | mismatch notFull replies recoverable =>
      rw [extra_of_error notFull replies, if_pos recoverable]
  | failure notFull replies final =>
      rw [extra_of_error notFull replies, if_neg (Bool.eq_false_iff.mp final)]
  | standstill replies still =>
      have leads := forward _ _ _ _ replies
      have same := leads.beq_iff.mpr still
      rw [extra, unlimited, replies]
      exact if_pos same

/-- What a loop without a limit has done when it ends. -/
theorem takes_of_unlimited (forward : attempt.Forward) (loop : Loop τ γ)
    (replies : loop.unlimited attempt push site = some reply) :
    ∃ row last, Takes attempt push site loop row last ∧
      Match.Moving (Match.places loop.cursor row) ∧ Halts attempt site none last reply := by
  have ended := replies
  rw [unlimited_of_shortens (shortens forward)] at replies
  split at replies
  · cases replies
  · next answer answers =>
      rcases answer with ⟨outcome, memory, log⟩
      cases outcome with
      | error error =>
          exact ⟨[], loop, .nil loop, List.IsChain.singleton _, .of_error (by simp) answers ended⟩
      | ok found =>
          have leads : loop.cursor.LeadsTo found.rest := forward _ _ _ _ answers
          dsimp only at replies
          split at replies
          · next still =>
              cases replies
              exact ⟨[], loop, .nil loop, List.IsChain.singleton _,
                .standstill answers (leads.beq_iff.mp still)⟩
          · next moved =>
              have different : found.rest ≠ loop.cursor :=
                (beq_eq_false forward answers).mp (Bool.eq_false_iff.mpr moved)
              obtain ⟨row, last, takes, moving, halts⟩ := takes_of_unlimited forward _ replies
              exact ⟨found :: row, last, .cons answers takes,
                Match.moving_cons.mpr ⟨different, moving⟩, halts⟩
termination_by loop.cursor.remainingLength
decreasing_by exact leads.remainingLength_lt different

/-- What a loop with a limit has done when it ends. -/
theorem takes_of_limited {limit : Nat}
    (replies : loop.limited attempt push site limit = some reply) :
    ∃ row last, Takes attempt push site loop row last ∧ row.length ≤ limit ∧
      Halts attempt site (some (limit - row.length)) last reply := by
  induction limit generalizing loop with
  | zero =>
      cases replies
      exact ⟨[], loop, .nil loop, Nat.le_refl 0, .full loop⟩
  | succ limit inductionHypothesis =>
      have ended := replies
      rw [limited] at replies
      split at replies
      · cases replies
      · next answer answers =>
          rcases answer with ⟨outcome, memory, log⟩
          cases outcome with
          | error error =>
              exact ⟨[], loop, .nil loop, Nat.zero_le _, .of_error (by simp) answers ended⟩
          | ok found =>
              obtain ⟨row, last, takes, within, halts⟩ := inductionHypothesis replies
              refine ⟨found :: row, last, .cons answers takes, Nat.succ_le_succ within, ?_⟩
              rw [List.length_cons, Nat.add_sub_add_right]
              exact halts

/-- What a loop has done when it ends: it has taken matches, none of them empty if it has no
limit and no more than its limit otherwise, and then something has stopped it. -/
theorem takes_of_extra (forward : attempt.Forward) {limit : Option Nat}
    (replies : loop.extra attempt push site limit = some reply) :
    ∃ row last, Takes attempt push site loop row last ∧
      (limit = none → Match.Moving (Match.places loop.cursor row)) ∧
      (∀ most, limit = some most → row.length ≤ most) ∧
      Halts attempt site (limit.map (· - row.length)) last reply := by
  cases limit with
  | none =>
      obtain ⟨row, last, takes, moving, halts⟩ := takes_of_unlimited forward loop replies
      exact ⟨row, last, takes, fun _ => moving, nofun, halts⟩
  | some most =>
      obtain ⟨row, last, takes, within, halts⟩ := takes_of_limited replies
      refine ⟨row, last, takes, nofun, ?_, halts⟩
      intro other same
      cases same
      exact within

end Extra

/-! ## Loops that need every match -/

section Required

variable {onward : Loop τ γ → Option (Reply τ γ)}

theorem required_of_takes (takes : Takes attempt push site loop row last) (count : Nat) :
    loop.required attempt push site onward (row.length + count) =
      last.required attempt push site onward count := by
  induction takes with
  | nil loop => rw [List.length_nil, Nat.zero_add]
  | @cons loop last found memory log row replies more inductionHypothesis =>
      rw [List.length_cons, Nat.add_right_comm, required, replies]
      exact inductionHypothesis

theorem required_of_error {count : Nat} {error : ParseError τ} {memory : Memory} {log : Log}
    (replies : attempt site last.memory last.cursor = some ⟨.error error, memory, log⟩) :
    last.required attempt push site onward (count + 1) =
      some (last.abort error memory log) := by
  rw [required, replies]

/-- A loop that needs every match has taken all of them and gone on, or has failed on the way
with the failure of the attempt. -/
theorem takes_of_required {count : Nat}
    (replies : loop.required attempt push site onward count = some reply) :
    (∃ row last, Takes attempt push site loop row last ∧ row.length = count ∧
      onward last = some reply) ∨
    ∃ row last error memory log, Takes attempt push site loop row last ∧ row.length < count ∧
      attempt site last.memory last.cursor = some ⟨.error error, memory, log⟩ ∧
      reply = last.abort error memory log := by
  induction count generalizing loop with
  | zero => exact .inl ⟨[], loop, .nil loop, rfl, replies⟩
  | succ count inductionHypothesis =>
      rw [required] at replies
      split at replies
      · cases replies
      · next answer answers =>
          rcases answer with ⟨outcome, memory, log⟩
          cases outcome with
          | error error =>
              cases replies
              exact .inr ⟨[], loop, error, memory, log, .nil loop, Nat.zero_lt_succ count,
                answers, rfl⟩
          | ok found =>
              rcases inductionHypothesis replies with
                ⟨row, last, takes, length, more⟩ |
                ⟨row, last, error, memory, log, takes, length, failed, same⟩
              · exact .inl ⟨found :: row, last, .cons answers takes,
                  congrArg (· + 1) length, more⟩
              · exact .inr ⟨found :: row, last, error, memory, log, .cons answers takes,
                  Nat.succ_lt_succ length, failed, same⟩

end Required

end Loop

end Attempt

end Descent
