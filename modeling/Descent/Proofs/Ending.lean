import Descent.Proofs.Depth
import Descent.Proofs.Position

/-!
# How parsers end

A run that is not nested deep enough has no reply, and one that is has always the same
outcome. So there is one way at most in which a parser ends at a cursor, apart from any depth
and from what the parser value remembers. This is what is meant by what a parser does at a
cursor wherever runs of different depths come together, as in a repetition that nests rules
deeper with one match than with another.
-/

namespace Descent.Rules

variable {τ ρ : Type} [Token τ] {Out : ρ → Type} {α β : Type}

/-- Whatever the parser value remembers, all runs of it that are nested deep enough have this
outcome. -/
def Ends (rules : Rules τ Out) (parser : Parser τ Out α) (cursor : Cursor τ)
    (outcome : Outcome τ α) : Prop :=
  ∃ depth, ∀ deeper, depth ≤ deeper → ∀ site memory, ∃ reply,
    rules.run deeper parser site memory cursor = some reply ∧ reply.outcome = outcome

variable {rules : Rules τ Out} {parser : Parser τ Out α} {cursor : Cursor τ}
variable {outcome : Outcome τ α} {depth : Nat} {site : Site} {memory : Memory}

/-- One reading tells how the parser ends. -/
theorem ends_of_reading (read : rules.reading depth parser cursor = some outcome) :
    rules.Ends parser cursor outcome := by
  refine ⟨depth, fun deeper deep site memory => ?_⟩
  obtain ⟨reply, replies, same⟩ := run_of_reading read site memory
  exact ⟨reply, rules.run_of_le deep replies, same⟩

theorem ends_of_run {reply : Reply τ α}
    (replies : rules.run depth parser site memory cursor = some reply) :
    rules.Ends parser cursor reply.outcome :=
  ends_of_reading (reading_of_run replies)

theorem ends_iff_reading :
    rules.Ends parser cursor outcome ↔
      ∃ depth, rules.reading depth parser cursor = some outcome := by
  constructor
  · rintro ⟨depth, deeper⟩
    obtain ⟨reply, replies, rfl⟩ := deeper depth (Nat.le_refl depth) [] .blank
    exact ⟨depth, reading_of_run replies⟩
  · rintro ⟨depth, read⟩
    exact ends_of_reading read

/-- No parser ends in two ways. -/
theorem Ends.unique {other : Outcome τ α} (ends : rules.Ends parser cursor outcome)
    (otherEnds : rules.Ends parser cursor other) : outcome = other := by
  obtain ⟨depth, deeper⟩ := ends
  obtain ⟨otherDepth, otherDeeper⟩ := otherEnds
  obtain ⟨reply, replies, rfl⟩ :=
    deeper (max depth otherDepth) (Nat.le_max_left _ _) [] .blank
  obtain ⟨answer, answers, rfl⟩ :=
    otherDeeper (max depth otherDepth) (Nat.le_max_right _ _) [] .blank
  cases replies.symm.trans answers
  rfl

theorem Ends.leads (ends : rules.Ends parser cursor outcome) :
    cursor.LeadsTo outcome.place := by
  obtain ⟨depth, read⟩ := ends_iff_reading.mp ends
  exact rules.forward_reading depth parser cursor outcome read

/-- A tap does not change how a parser ends. -/
theorem ends_tap (label : String) :
    rules.Ends (.tap label parser) cursor outcome ↔ rules.Ends parser cursor outcome := by
  rw [ends_iff_reading, ends_iff_reading]
  exact Iff.rfl

end Descent.Rules
