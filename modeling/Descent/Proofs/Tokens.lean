import Descent.Proofs.Passage
import Descent.Proofs.Reading

/-!
# Reading single tokens

Whether a single token is read depends on the next token alone, or on there being none.
All failures to read one are mismatches.
-/

namespace Descent

/-- The next token, if there is one, passes a test. -/
def Cursor.NextIs {τ : Type} (cursor : Cursor τ) (allowed : τ → Bool) : Prop :=
  ∀ token ∈ cursor.remaining.head?, allowed token = true

theorem Cursor.Passes.nextIs_iff {τ : Type} {cursor next : Cursor τ} {token : τ}
    {text : List τ} (passes : cursor.Passes (token :: text) next) (allowed : τ → Bool) :
    cursor.NextIs allowed ↔ allowed token = true := by
  rw [NextIs, passes.remaining, List.cons_append, List.head?_cons]
  constructor
  · intro next
    exact next token rfl
  · rintro first _ ⟨⟩
    exact first

namespace Cursor

variable {τ : Type} {cursor : Cursor τ} {allowed other : τ → Bool}

/-- Where nothing is left, there is no token that could fail a test. -/
theorem nextIs_of_ended (ended : cursor.remaining = []) : cursor.NextIs allowed := by
  intro token head
  rw [ended] at head
  cases head

theorem NextIs.imp (nextIs : cursor.NextIs allowed)
    (passes : ∀ token, allowed token = true → other token = true) : cursor.NextIs other := by
  intro token head
  exact passes token (nextIs token head)

/-- Where no token would be right, nothing is left. -/
theorem NextIs.ended (nextIs : cursor.NextIs fun _ => false) : cursor.remaining = [] := by
  cases left : cursor.remaining with
  | nil => rfl
  | cons token rest =>
      have impossible := nextIs token (by rw [left]; rfl)
      cases impossible

end Cursor

namespace Reading

theorem satisfy_eq_error {τ : Type} [Token τ] {expected : String} {accepts : τ → Bool}
    {cursor : Cursor τ} {error : ParseError τ} :
    satisfy expected accepts cursor = some (.error error) ↔
      cursor.NextIs (fun token => !accepts token) ∧ error = .unexpected cursor expected := by
  cases seen : cursor.peek with
  | none =>
      have nothing := Cursor.peek_eq_none_iff_remaining.mp seen
      simp only [satisfy, seen]
      constructor
      · rintro ⟨⟩
        refine ⟨?_, rfl⟩
        intro token first
        rw [nothing] at first
        cases first
      · rintro ⟨_, rfl⟩
        rfl
  | some found =>
      rcases found with ⟨token, next⟩
      rw [(Cursor.passes_of_peek seen).nextIs_iff]
      cases accepted : accepts token with
      | true => simp [satisfy, seen, accepted]
      | false =>
          simp only [satisfy, seen, accepted, Bool.false_eq_true, ↓reduceIte]
          constructor
          · rintro ⟨⟩
            exact ⟨rfl, rfl⟩
          · rintro ⟨_, rfl⟩
            rfl

theorem isRecoverable_unexpected {τ : Type} [Token τ] (cursor : Cursor τ)
    (expected : String) : (ParseError.unexpected cursor expected).isRecoverable = true := by
  simp only [ParseError.unexpected]
  split <;> rfl

theorem eof_eq_ok {τ : Type} [Token τ] {cursor : Cursor τ} {found : Match τ Unit} :
    eof cursor = some (.ok found) ↔ cursor.remaining = [] ∧ found = ⟨(), cursor⟩ := by
  rw [← Cursor.atEnd_iff_remaining]
  cases ended : cursor.atEnd with
  | true =>
      simp only [eof, ended, ↓reduceIte, true_and]
      constructor
      · rintro ⟨⟩
        rfl
      · rintro rfl
        rfl
  | false => simp [eof, ended]

theorem isRecoverable_eof {τ : Type} [Token τ] {cursor : Cursor τ} {error : ParseError τ}
    (failed : eof cursor = some (.error error)) : error.isRecoverable = true := by
  simp only [eof] at failed
  split at failed
  · cases failed
  · cases failed
    exact isRecoverable_unexpected cursor endOfInput

end Reading

end Descent
