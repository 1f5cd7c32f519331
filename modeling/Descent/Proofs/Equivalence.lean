import Descent.Proofs.Agreement
import Descent.Proofs.Ending
import Descent.Proofs.Lockstep

/-!
# Parsers that do the same

Two parsers do the same if runs of them from one cursor have the same outcome, down to the
words of a failure, or if neither of them ends. This is asked of all runs, whatever the
parser values remember and however deep rules may be nested; and as outcomes hang on nothing
but the reading, it says that the two have one reading.

So laws of parsers are equations between readings. The few that are needed for whatever is
made of readings in a row are gathered here.
-/

namespace Descent

namespace Reading

variable {τ α β γ : Type}

/-! ## Readings in a row -/

/-- Of three readings in a row, the first two may be taken together, or the last two. -/
theorem flatMap_assoc (reading : Reading τ α) (next : α → Reading τ β)
    (last : β → Reading τ γ) :
    (reading.flatMap next).flatMap last =
      reading.flatMap fun output => (next output).flatMap last := by
  funext cursor
  simp only [flatMap, andThen]
  cases reading cursor with
  | none => rfl
  | some outcome => cases outcome <;> rfl

theorem map_flatMap (reading : Reading τ α) (function : α → β) (next : β → Reading τ γ) :
    (reading.map function).flatMap next =
      reading.flatMap fun output => next (function output) :=
  reading.flatMap_assoc (fun output => .pure (function output)) next

theorem flatMap_map (reading : Reading τ α) (next : α → Reading τ β) (function : β → γ) :
    (reading.flatMap next).map function =
      reading.flatMap fun output => (next output).map function :=
  reading.flatMap_assoc next fun output => .pure (function output)

theorem map_map (reading : Reading τ α) (function : α → β) (other : β → γ) :
    (reading.map function).map other = reading.map fun output => other (function output) :=
  reading.map_flatMap function fun output => .pure (other output)

/-- Outputs that are changed into themselves are not changed. -/
theorem map_id (reading : Reading τ α) : (reading.map fun output => output) = reading := by
  funext cursor
  simp only [map, andThen]
  cases reading cursor with
  | none => rfl
  | some outcome => cases outcome <;> rfl

/-- What is made of both outputs of two readings in a row may be made of the second one at
once. -/
theorem sequence_map {δ : Type} (reading : Reading τ α) (other : Reading τ β)
    (combine : α → β → γ) (function : γ → δ) :
    (sequence combine reading other).map function =
      reading.flatMap fun output => other.map fun further => function (combine output further) := by
  simp only [sequence, flatMap_map, map_map]

/-- A reading differs from another one by its output alone if the two go the same way and the
outputs belong to each other. -/
theorem eq_map_of_agrees {reading : Reading τ α} {other : Reading τ β} {function : α → β}
    (agrees : Agrees .identity (fun value twin => twin = function value) reading other)
    (back : Agrees .identity (fun value twin => value = function twin) other reading) :
    other = reading.map function := by
  funext cursor
  simp only [map, andThen]
  cases read : reading cursor with
  | none =>
      cases otherRead : other cursor with
      | none => rfl
      | some outcome =>
          obtain ⟨answer, impossible, _⟩ := back rfl otherRead
          cases read.symm.trans impossible
  | some outcome =>
      obtain ⟨answer, otherRead, corresponds⟩ := agrees rfl read
      rw [otherRead]
      cases corresponds with
      | ok same rests =>
          cases same
          cases rests
          rfl
      | @error error twin remainders causes =>
          cases error
          cases twin
          cases remainders
          cases causes
          rfl

/-- A reading with changed outputs goes the way it went before. -/
theorem agrees_map (reading : Reading τ α) (function : α → β) :
    Agrees .identity (fun value twin => twin = function value) reading (reading.map function) := by
  intro cursor twinCursor outcome same read
  cases same
  cases outcome with
  | error error => exact ⟨_, map_eq_error.mpr read, .error rfl rfl⟩
  | ok found => exact ⟨_, map_eq_ok.mpr ⟨found, read, rfl⟩, .ok rfl rfl⟩

theorem map_agrees (reading : Reading τ α) (function : α → β) :
    Agrees .identity (fun value twin => value = function twin) (reading.map function) reading := by
  intro cursor twinCursor outcome same read
  cases same
  cases outcome with
  | error error => exact ⟨_, map_eq_error.mp read, .error rfl rfl⟩
  | ok found =>
      obtain ⟨before, beforeRead, rfl⟩ := map_eq_ok.mp read
      exact ⟨_, beforeRead, .ok rfl rfl⟩

end Reading

namespace Rules

variable {τ ρ : Type} [Token τ] {Out : ρ → Type} {α β γ : Type}

/-! ## Equivalent parsers -/

/-- Runs of the two parsers from one cursor have the same outcome, or neither ends. -/
def Equivalent (rules : Rules τ Out) (first second : Parser τ Out α) : Prop :=
  ∀ depth cursor site memory otherSite otherMemory,
    (rules.run depth first site memory cursor).map Reply.outcome =
      (rules.run depth second otherSite otherMemory cursor).map Reply.outcome

variable {rules : Rules τ Out} {cursor : Cursor τ}

theorem equivalent_iff_reading {first second : Parser τ Out α} :
    rules.Equivalent first second ↔
      ∀ depth, rules.reading depth first = rules.reading depth second := by
  constructor
  · intro equivalent depth
    funext cursor
    rw [← rules.outcome_run depth first [] .blank, ← rules.outcome_run depth second [] .blank]
    exact equivalent depth cursor [] .blank [] .blank
  · intro same depth cursor site memory otherSite otherMemory
    rw [outcome_run, outcome_run, same depth]

/-- Parsers that do the same end in the same ways. -/
theorem Equivalent.ends_iff {first second : Parser τ Out α}
    (equivalent : rules.Equivalent first second) {outcome : Outcome τ α} :
    rules.Ends first cursor outcome ↔ rules.Ends second cursor outcome := by
  rw [ends_iff_reading, ends_iff_reading]
  simp only [equivalent_iff_reading.mp equivalent]

/-! ## Two parsers in a row -/

section Rows

variable {first : Parser τ Out α} {second : Parser τ Out β}

/-- The reading of a parser is known at all depths that are great enough. -/
theorem Ends.reading_eq {parser : Parser τ Out α} {outcome : Outcome τ α}
    (ends : rules.Ends parser cursor outcome) :
    ∃ depth, ∀ deeper, depth ≤ deeper → rules.reading deeper parser cursor = some outcome := by
  obtain ⟨depth, replies⟩ := ends
  refine ⟨depth, fun deeper deep => ?_⟩
  obtain ⟨reply, replied, rfl⟩ := replies deeper deep [] .blank
  exact reading_of_run replied

/-- Two parsers in a row end well if both do, the second behind the first. -/
theorem ends_sequence_ok_iff {note : Option String} {combine : α → β → γ} {found : Match τ γ} :
    rules.Ends (.sequence note combine first second) cursor (.ok found) ↔
      ∃ ahead behind, rules.Ends first cursor (.ok ahead) ∧
        rules.Ends second ahead.rest (.ok behind) ∧
        found = ⟨combine ahead.value behind.value, behind.rest⟩ := by
  constructor
  · intro ends
    obtain ⟨depth, read⟩ := ends_iff_reading.mp ends
    obtain ⟨ahead, behind, aheadRead, behindRead, same⟩ := Reading.sequence_eq_ok.mp read
    exact ⟨ahead, behind, ends_of_reading aheadRead, ends_of_reading behindRead, same⟩
  · rintro ⟨ahead, behind, aheadEnds, behindEnds, same⟩
    obtain ⟨depth, aheadRead⟩ := aheadEnds.reading_eq
    obtain ⟨otherDepth, behindRead⟩ := behindEnds.reading_eq
    refine ends_iff_reading.mpr ⟨max depth otherDepth, Reading.sequence_eq_ok.mpr ?_⟩
    exact ⟨ahead, behind, aheadRead _ (Nat.le_max_left _ _), behindRead _ (Nat.le_max_right _ _),
      same⟩

/-- Two parsers in a row fail if the first does, or the second behind the first. -/
theorem ends_sequence_error_iff {note : Option String} {combine : α → β → γ}
    {error : ParseError τ} :
    rules.Ends (.sequence note combine first second) cursor (.error error) ↔
      rules.Ends first cursor (.error error) ∨
        ∃ ahead, rules.Ends first cursor (.ok ahead) ∧
          rules.Ends second ahead.rest (.error error) := by
  constructor
  · intro ends
    obtain ⟨depth, read⟩ := ends_iff_reading.mp ends
    rcases Reading.sequence_eq_error.mp read with failed | ⟨ahead, aheadRead, failed⟩
    · exact .inl (ends_of_reading failed)
    · exact .inr ⟨ahead, ends_of_reading aheadRead, ends_of_reading failed⟩
  · rintro (fails | ⟨ahead, aheadEnds, fails⟩)
    · obtain ⟨depth, failed⟩ := ends_iff_reading.mp fails
      exact ends_iff_reading.mpr ⟨depth, Reading.sequence_eq_error.mpr (.inl failed)⟩
    · obtain ⟨depth, aheadRead⟩ := aheadEnds.reading_eq
      obtain ⟨otherDepth, failed⟩ := fails.reading_eq
      refine ends_iff_reading.mpr ⟨max depth otherDepth, Reading.sequence_eq_error.mpr (.inr ?_)⟩
      exact ⟨ahead, aheadRead _ (Nat.le_max_left _ _), failed _ (Nat.le_max_right _ _)⟩

theorem ends_both_ok_iff {found : Match τ (α × β)} :
    rules.Ends (.both first second) cursor (.ok found) ↔
      ∃ ahead behind, rules.Ends first cursor (.ok ahead) ∧
        rules.Ends second ahead.rest (.ok behind) ∧
        found = ⟨(ahead.value, behind.value), behind.rest⟩ :=
  ends_sequence_ok_iff

theorem ends_both_error_iff {error : ParseError τ} :
    rules.Ends (.both first second) cursor (.error error) ↔
      rules.Ends first cursor (.error error) ∨
        ∃ ahead, rules.Ends first cursor (.ok ahead) ∧
          rules.Ends second ahead.rest (.error error) :=
  ends_sequence_error_iff

end Rows

end Rules

end Descent
