import Descent.Repetition.Bounds
import Descent.Repetition.Collector
import Descent.Run.Attempt

/-!
# Attempts made over and over

Three loops, of which all repetitions are made: a given number of matches, up to a
given number, and as many as there are. The first one needs every match, the
others end with the first mismatch, and no loop hides an error in the grammar.

Only the loop without a limit has to watch for matches of nothing, which would go
on forever. It ends because every other match leaves fewer tokens. The loop below asks
for that, so that it is defined for whatever else attempts might do; no attempt of a
parser is ever found to do otherwise.
-/

namespace Descent.Attempt

variable {τ α γ μ : Type}

/-- Every match of the attempt that is not empty leaves fewer tokens. -/
def Shortens (attempt : Attempt τ α μ) : Prop :=
  ∀ {site memory cursor found after log},
    attempt site memory cursor = some ⟨.ok found, after, log⟩ →
    (found.rest == cursor) = false → found.rest.remainingLength < cursor.remainingLength

/-- A loop between two matches: what has been gathered, where it stands, and what it
remembers and logged so far. -/
structure Loop (τ γ : Type) (μ : Type := Memory) where
  items : γ
  cursor : Cursor τ
  memory : μ
  log : Log

namespace Loop

/-- The loop before its first match. -/
def start (items : γ) (memory : μ) (cursor : Cursor τ) : Loop τ γ μ :=
  ⟨items, cursor, memory, #[]⟩

/-- The loop after one more match. -/
def step (push : γ → α → γ) (loop : Loop τ γ μ) (found : Match τ α) (memory : μ)
    (log : Log) : Loop τ γ μ :=
  ⟨push loop.items found.value, found.rest, memory, loop.log ++ log⟩

/-- The loop ends well with what it has gathered. -/
def succeed (loop : Loop τ γ μ) (memory : μ) (log : Log) : Reply τ γ μ :=
  ⟨.ok ⟨loop.items, loop.cursor⟩, memory, loop.log ++ log⟩

/-- The loop ends with an error. -/
def abort (loop : Loop τ γ μ) (error : ParseError τ) (memory : μ) (log : Log) :
    Reply τ γ μ :=
  ⟨.error error, memory, loop.log ++ log⟩

/-- Goes on for as long as there are matches. A match that is neither empty nor
shortens what is left has moved out of the source or back in it; no end is in
sight then, and there is no reply. -/
def unlimited (attempt : Attempt τ α μ) (push : γ → α → γ) (site : Site)
    (loop : Loop τ γ μ) : Option (Reply τ γ μ) :=
  match attempt site loop.memory loop.cursor with
  | none => none
  | some reply =>
      match reply.outcome with
      | .error error =>
          if error.isRecoverable then
            some (loop.succeed reply.memory reply.log)
          else
            some (loop.abort error reply.memory reply.log)
      | .ok found =>
          if found.rest == loop.cursor then
            some (loop.abort ⟨loop.cursor, .noProgress⟩ reply.memory reply.log)
          else if found.rest.remainingLength < loop.cursor.remainingLength then
            unlimited attempt push site (loop.step push found reply.memory reply.log)
          else
            none
termination_by loop.cursor.remainingLength

/-- The last case of the loop is never reached if every match leaves fewer tokens: behind
one that is not empty the loop goes on. -/
theorem unlimited_of_shortens {attempt : Attempt τ α μ} (shortens : attempt.Shortens)
    (push : γ → α → γ) (site : Site) (loop : Loop τ γ μ) :
    loop.unlimited attempt push site =
      match attempt site loop.memory loop.cursor with
      | none => none
      | some reply =>
          match reply.outcome with
          | .error error =>
              if error.isRecoverable then
                some (loop.succeed reply.memory reply.log)
              else
                some (loop.abort error reply.memory reply.log)
          | .ok found =>
              if found.rest == loop.cursor then
                some (loop.abort ⟨loop.cursor, .noProgress⟩ reply.memory reply.log)
              else
                unlimited attempt push site (loop.step push found reply.memory reply.log) := by
  rw [unlimited]
  cases replies : attempt site loop.memory loop.cursor with
  | none => rfl
  | some reply =>
      rcases reply with ⟨outcome, memory, log⟩
      cases outcome with
      | error error => rfl
      | ok found =>
          cases still : found.rest == loop.cursor with
          | true => simp only [still, ↓reduceIte]
          | false =>
              have shorter := shortens replies still
              simp only [still, shorter, Bool.false_eq_true, ↓reduceIte]

/-- Goes on for as long as there are matches, up to a limit. -/
def limited (attempt : Attempt τ α μ) (push : γ → α → γ) (site : Site) :
    Nat → Loop τ γ μ → Option (Reply τ γ μ)
  | 0, loop => some (loop.succeed loop.memory #[])
  | limit + 1, loop =>
      match attempt site loop.memory loop.cursor with
      | none => none
      | some reply =>
          match reply.outcome with
          | .error error =>
              if error.isRecoverable then
                some (loop.succeed reply.memory reply.log)
              else
                some (loop.abort error reply.memory reply.log)
          | .ok found =>
              limited attempt push site limit
                (loop.step push found reply.memory reply.log)

/-- Takes a given number of matches and then goes on in a given way. Every failure is
final. -/
def required (attempt : Attempt τ α μ) (push : γ → α → γ) (site : Site)
    (onward : Loop τ γ μ → Option (Reply τ γ μ)) : Nat → Loop τ γ μ → Option (Reply τ γ μ)
  | 0, loop => onward loop
  | count + 1, loop =>
      match attempt site loop.memory loop.cursor with
      | none => none
      | some reply =>
          match reply.outcome with
          | .error error => some (loop.abort error reply.memory reply.log)
          | .ok found =>
              required attempt push site onward count
                (loop.step push found reply.memory reply.log)

end Loop

/-- As many matches as there are. -/
def zeroOrMore (collector : Collector α γ) (attempt : Attempt τ α μ) : Attempt τ γ μ :=
  fun site memory cursor =>
    Loop.unlimited attempt collector.push site (.start collector.start memory cursor)

/-- As many matches as there are, and at least one. The first one must not be empty
either. -/
def oneOrMore (collector : Collector α γ) (attempt : Attempt τ α μ) : Attempt τ γ μ :=
  fun site memory cursor => do
    let reply ← attempt site memory cursor
    let loop : Loop τ γ μ := .start collector.start reply.memory cursor
    match reply.outcome with
    | .error error => some (loop.abort error reply.memory reply.log)
    | .ok found =>
        if found.rest == cursor then
          some (loop.abort ⟨cursor, .noProgress⟩ reply.memory reply.log)
        else
          Loop.unlimited attempt collector.push site
            (loop.step collector.push found reply.memory reply.log)

/-- As many matches as there are, within bounds. Bounds that make no sense are found
out before anything is read. -/
def count (bounds : Bounds) (collector : Collector α γ) (attempt : Attempt τ α μ) :
    Attempt τ γ μ := fun site memory cursor =>
  match bounds.quota with
  | .error cause => some ⟨.error ⟨cursor, cause⟩, memory, #[]⟩
  | .ok quota =>
      let more : Loop τ γ μ → Option (Reply τ γ μ) :=
        match quota.extra with
        | none => Loop.unlimited attempt collector.push site
        | some limit => Loop.limited attempt collector.push site limit
      Loop.required attempt collector.push site more quota.required
        (.start collector.start memory cursor)

end Descent.Attempt
