import Descent.Proofs.Position

/-!
# Failures and where they come from

Most of what parsers are made of makes no failures of its own: it hands on those of its
parts, and of two it picks one. So what holds of all failures of the parts holds of all
failures of the whole. Only repetitions add something, for a match of nothing and for bounds
that make no sense.
-/

namespace Descent

/-- Bounds are never refused because of the input. -/
theorem Bounds.isRecoverable_of_quota {τ : Type} {bounds : Bounds} {cause : Cause}
    (refused : bounds.quota = .error cause) (cursor : Cursor τ) :
    (ParseError.mk cursor cause).isRecoverable = false := by
  simp only [quota] at refused
  split at refused
  · cases refused
    rfl
  · split at refused
    · cases refused
    · split at refused
      · cases refused
        rfl
      · cases refused

namespace Reading

variable {τ α β γ : Type} {holds : ParseError τ → Prop}

/-- Every failure is one of which a fact holds. -/
def FailsAs (reading : Reading τ α) (holds : ParseError τ → Prop) : Prop :=
  ∀ cursor error, reading cursor = some (.error error) → holds error

namespace FailsAs

variable {reading first second : Reading τ α}

theorem pure (value : α) : (Reading.pure (τ := τ) value).FailsAs holds := by
  intro cursor error failed
  cases failed

/-! ## One reading after another -/

theorem map (fails : reading.FailsAs holds) (function : α → β) :
    (reading.map function).FailsAs holds := by
  intro cursor error failed
  exact fails cursor error (map_eq_error.mp failed)

theorem flatMap {choose : α → Reading τ β} (fails : reading.FailsAs holds)
    (chosen : ∀ output, (choose output).FailsAs holds) :
    (reading.flatMap choose).FailsAs holds := by
  intro cursor error failed
  rcases andThen_eq_some failed with ⟨error, ended, same⟩ | ⟨found, _, more⟩
  · cases same
    exact fails cursor error ended
  · exact chosen found.value found.rest error more

theorem sequence {other : Reading τ β} (fails : reading.FailsAs holds)
    (otherFails : other.FailsAs holds) (combine : α → β → γ) :
    (Reading.sequence combine reading other).FailsAs holds :=
  fails.flatMap fun output => otherFails.map (combine output)

theorem choice (fails : first.FailsAs holds) (otherFails : second.FailsAs holds) :
    (Reading.choice first second).FailsAs holds := by
  intro cursor error failed
  rcases choice_eq_some failed with ⟨_, _, impossible⟩ | ⟨error, ended, others⟩
  · cases impossible
  rcases others with ⟨_, _, impossible⟩ | ⟨other, otherEnded, same⟩
  · cases impossible
  · cases same
    rcases error.furthest_eq_or other with picked | picked
    · rw [picked]
      exact fails cursor error ended
    · rw [picked]
      exact otherFails cursor other otherEnded

/-! ## Repetition

A loop fails as what it repeats does, or because it stands still. -/

theorem unlimited (fails : reading.FailsAs holds)
    (standstill : ∀ cursor, holds ⟨cursor, .noProgress⟩) {push : γ → α → γ} {items : γ}
    {cursor : Cursor τ} {error : ParseError τ}
    (failed : reading.unlimited push items cursor = some (.error error)) : holds error := by
  refine unlimited_rule (fun _ _ => True)
    (fun outcome => ∀ error, outcome = .error error → holds error)
    ?mismatch ?failure ?standstill ?step trivial failed error rfl
  case mismatch =>
    intro items cursor error _ _ recoverable other impossible
    cases impossible
  case failure =>
    intro items cursor error _ ended final other same
    cases same
    exact fails cursor error ended
  case standstill =>
    intro items cursor found _ succeeded still other same
    cases same
    exact standstill cursor
  case step =>
    intro items cursor found _ succeeded moved
    trivial

theorem limited (fails : reading.FailsAs holds) {push : γ → α → γ} {limit : Nat} {items : γ}
    {cursor : Cursor τ} {error : ParseError τ}
    (failed : reading.limited push limit items cursor = some (.error error)) :
    holds error := by
  refine limited_rule (fun _ _ => True)
    (fun outcome => ∀ error, outcome = .error error → holds error)
    ?full ?mismatch ?failure ?step trivial failed error rfl
  case full =>
    intro items cursor _ other impossible
    cases impossible
  case mismatch =>
    intro items cursor error _ _ recoverable other impossible
    cases impossible
  case failure =>
    intro items cursor error _ ended final other same
    cases same
    exact fails cursor error ended
  case step =>
    intro items cursor found _ succeeded
    trivial

theorem extra (fails : reading.FailsAs holds)
    (standstill : ∀ cursor, holds ⟨cursor, .noProgress⟩) {push : γ → α → γ}
    {more : Option Nat} {items : γ} {cursor : Cursor τ} {error : ParseError τ}
    (failed : reading.extra push more items cursor = some (.error error)) : holds error := by
  cases more with
  | none => exact fails.unlimited standstill failed
  | some limit => exact fails.limited failed

theorem zeroOrMore (fails : reading.FailsAs holds)
    (standstill : ∀ cursor, holds ⟨cursor, .noProgress⟩) (collector : Collector α γ) :
    (Reading.zeroOrMore collector reading).FailsAs holds := by
  intro cursor error failed
  exact fails.unlimited standstill failed

theorem oneOrMore (fails : reading.FailsAs holds)
    (standstill : ∀ cursor, holds ⟨cursor, .noProgress⟩) (collector : Collector α γ) :
    (Reading.oneOrMore collector reading).FailsAs holds := by
  intro cursor error failed
  rcases andThen_eq_some failed with ⟨error, ended, same⟩ | ⟨found, _, more⟩
  · cases same
    exact fails cursor error ended
  · split at more
    · cases more
      exact standstill cursor
    · exact fails.unlimited standstill more

theorem count (fails : reading.FailsAs holds)
    (standstill : ∀ cursor, holds ⟨cursor, .noProgress⟩) {bounds : Bounds}
    (refused : ∀ cause, bounds.quota = .error cause → ∀ cursor, holds ⟨cursor, cause⟩)
    (collector : Collector α γ) : (Reading.count bounds collector reading).FailsAs holds := by
  intro cursor error failed
  simp only [Reading.count] at failed
  split at failed
  · next cause senseless =>
      cases failed
      exact refused cause senseless cursor
  · refine required_rule (fun _ _ => True)
      (fun outcome => ∀ error, outcome = .error error → holds error)
      ?failure ?step ?last trivial failed error rfl
    case failure =>
      intro items place error _ ended other same
      cases same
      exact fails place error ended
    case step =>
      intro items place found _ succeeded
      trivial
    case last =>
      intro items place outcome _ more error same
      cases same
      exact fails.extra standstill more

end FailsAs

end Reading

end Descent
