import Descent.Proofs.Position

/-!
# Matches in a row

What a repetition reads is a chain: every match starts where the one before it ended, and
none of them is empty. A loop without a limit follows a chain to its end, and has gathered
the outputs in their order when it gets there.
-/

namespace Descent.Reading

variable {τ α γ : Type}

/-- One match behind the other, none of them empty, with their outputs and the place where
the last one ends. -/
inductive Chain (reading : Reading τ α) : Cursor τ → List α → Cursor τ → Prop where
  | nil (cursor : Cursor τ) : Chain reading cursor [] cursor
  | cons {cursor last : Cursor τ} {found : Match τ α} {outputs : List α}
      (succeeded : reading cursor = some (.ok found))
      (moved : (found.rest == cursor) = false)
      (more : Chain reading found.rest outputs last) :
      Chain reading cursor (found.value :: outputs) last

namespace Chain

variable {reading : Reading τ α} {cursor last : Cursor τ} {outputs : List α}

/-- The loop gathers the outputs of a chain and goes on behind it. -/
theorem unlimited_eq (chain : reading.Chain cursor outputs last) (forward : reading.Forward)
    (push : γ → α → γ) (items : γ) :
    reading.unlimited push items cursor =
      reading.unlimited push (outputs.foldl push items) last := by
  induction chain generalizing items with
  | nil cursor => rfl
  | cons succeeded moved more inductionHypothesis =>
      rw [unlimited_of_ok succeeded moved (forward.remainingLength_lt succeeded moved),
        inductionHypothesis]
      rfl

/-- A repetition ends well where a chain is followed by a mismatch. -/
theorem zeroOrMore_eq (chain : reading.Chain cursor outputs last) (forward : reading.Forward)
    {error : ParseError τ} (failed : reading last = some (.error error))
    (recoverable : error.isRecoverable = true) (collector : Collector α γ) :
    Reading.zeroOrMore collector reading cursor =
      some (.ok ⟨collector.collect outputs, last⟩) := by
  rw [Reading.zeroOrMore, chain.unlimited_eq forward, unlimited_of_error failed recoverable]
  rfl

end Chain

end Descent.Reading
