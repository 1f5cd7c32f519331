import Descent.Proofs.Endless

/-!
# What repetitions gather

A repetition hands over the outputs of its matches one at a time and in order, and it never looks
at them. So it goes the same way whatever becomes of them: if they are changed before they are
gathered, they may as well be changed afterwards, and whatever they are gathered into may as well
be made of the list of them.

This is shown of one loop. All forms of repetitions are that loop within bounds.
-/

namespace Descent

variable {τ ρ : Type} {Out : ρ → Type} {α β γ : Type}

/-- The forms of repetitions. -/
inductive Repetition where
  | zeroOrMore
  | oneOrMore
  | count (bounds : Bounds)

namespace Repetition

/-- The repetition of a parser in this form. -/
def parser (collector : Collector α γ) (body : Parser τ Out α) : Repetition → Parser τ Out γ
  | .zeroOrMore => .zeroOrMore collector body
  | .oneOrMore => .oneOrMore collector body
  | .count bounds => .count bounds collector body

/-- The bounds within which a repetition of this form goes on. -/
def bounds : Repetition → Bounds
  | .zeroOrMore => ⟨0, none⟩
  | .oneOrMore => ⟨1, none⟩
  | .count bounds => bounds

end Repetition

namespace Rules

variable [Token τ] {rules : Rules τ Out} {body : Parser τ Out α} {cursor last : Cursor τ}

theorem equivalent_within (form : Repetition) (collector : Collector α γ)
    (body : Parser τ Out α) :
    rules.Equivalent (form.parser collector body) (.count form.bounds collector body) := by
  cases form with
  | zeroOrMore => exact equivalent_zeroOrMore
  | oneOrMore => exact equivalent_oneOrMore
  | count bounds => exact equivalent_iff_reading.mpr fun _ => rfl

theorem reading_repetition (depth : Nat) (form : Repetition) (collector : Collector α γ)
    (body : Parser τ Out α) :
    rules.reading depth (form.parser collector body) =
      Reading.count form.bounds collector (rules.reading depth body) :=
  equivalent_iff_reading.mp (equivalent_within form collector body) depth

/-! ## Changed outputs -/

/-- Outputs may be changed before they are gathered or in the list of them. -/
theorem equivalent_repetition_map (form : Repetition) (collector : Collector β γ)
    (note : Option String) (function : α → β) (body : Parser τ Out α) :
    rules.Equivalent (form.parser collector (.map note function body))
      (.map none (fun outputs => collector.collect (outputs.toList.map function))
        (form.parser .array body)) := by
  refine equivalent_iff_reading.mpr fun depth => ?_
  rw [reading_repetition, reading_map, reading_map, reading_repetition]
  exact Reading.count_map _ _ _ _

theorem equivalent_repetition_collect (form : Repetition) (collector : Collector α γ)
    (body : Parser τ Out α) :
    rules.Equivalent (form.parser collector body)
      (.map none (fun outputs => collector.collect outputs.toList) (form.parser .array body)) := by
  refine equivalent_iff_reading.mpr fun depth => ?_
  rw [reading_repetition, reading_map, reading_repetition]
  exact Reading.count_eq_map _ _ _

/-! ## Gathered outputs -/

/-- The matches that a repetition has taken when it ends well: as many as its bounds ask for, and
behind them the parser fails with a mismatch unless no more may be taken. -/
structure Completes (rules : Rules τ Out) (form : Repetition) (body : Parser τ Out α)
    (cursor : Cursor τ) (row : List (Match τ α)) (last : Cursor τ) : Prop where
  matched : rules.Row body cursor row last
  within : ∃ quota, form.bounds.quota = .ok quota ∧ quota.Allows cursor row ∧
    quota.required ≤ row.length ∧
    (quota.most = some row.length ∨
      ∃ error, rules.Ends body last (.error error) ∧ error.isRecoverable = true)

/-- A repetition ends well with what these matches are gathered into. -/
theorem ends_repetition_iff {form : Repetition} {collector : Collector α γ} {gathered : γ} :
    rules.Ends (form.parser collector body) cursor (.ok ⟨gathered, last⟩) ↔
      ∃ row, rules.Completes form body cursor row last ∧
        gathered = collector.collect (row.map Match.value) := by
  rw [(equivalent_within form collector body).ends_iff]
  cases valid : form.bounds.quota with
  | error cause =>
      constructor
      · intro ends
        obtain ⟨depth, read⟩ := ends_iff_reading.mp ends
        have refused : rules.reading depth (.count form.bounds collector body) cursor =
            some (.error ⟨cursor, cause⟩) := by
          show Reading.count form.bounds collector (rules.reading depth body) cursor = _
          simp only [Reading.count, valid]
        cases refused.symm.trans read
      · rintro ⟨row, ⟨_, quota, asked, _⟩, _⟩
        cases valid.symm.trans asked
  | ok quota =>
      rw [ends_count_iff valid]
      refine exists_congr fun row => repeats_ok_iff.trans ?_
      constructor
      · rintro ⟨⟨matched, allowed⟩, same, enough, stops⟩
        exact ⟨⟨matched, quota, valid, allowed, enough, stops⟩, same⟩
      · rintro ⟨⟨matched, asked, asksFor, allowed, enough, stops⟩, same⟩
        cases valid.symm.trans asksFor
        exact ⟨⟨matched, allowed⟩, same, enough, stops⟩

/-- Repetitions of all forms go the same way whatever becomes of the outputs. To change outputs
before they are gathered into an array is to change them in the array. Whatever else outputs are
gathered into is made of that array, by handing over its elements one at a time; and where the
array is not reached, the failure is the same. So a text that is gathered is that of the array's
elements, one behind the other. These are the outputs of the matches which the repetition has taken,
each once; the mismatch which stops the repetition adds nothing. -/
theorem repetitions_natural (rules : Rules τ Out) (form : Repetition) (body : Parser τ Out α) :
    (∀ {β : Type} (note : Option String) (function : α → β),
      rules.Equivalent (form.parser .array (.map note function body))
        (.map none (Array.map function) (form.parser .array body))) ∧
    (∀ {γ : Type} (collector : Collector α γ),
      rules.Equivalent (form.parser collector body)
        (.map none (fun outputs => outputs.toList.foldl collector.push collector.start)
          (form.parser .array body))) ∧
    ∀ (textOf : α → String) cursor gathered last,
      rules.Ends (form.parser (.text textOf) body) cursor (.ok ⟨gathered, last⟩) ↔
        ∃ row, rules.Completes form body cursor row last ∧
          rules.Ends (form.parser .array body) cursor
            (.ok ⟨(row.map Match.value).toArray, last⟩) ∧
          gathered.toList = (row.map Match.value).flatMap fun output => (textOf output).toList := by
  refine ⟨?changed, ?collected, ?texts⟩
  case changed =>
    intro β note function
    have changed : rules.Equivalent (form.parser .array (.map note function body)) _ :=
      equivalent_repetition_map form .array note function body
    simpa only [Collector.collect_array, ← List.map_toArray, Array.toArray_toList] using changed
  case collected =>
    intro γ collector
    exact equivalent_repetition_collect form collector body
  case texts =>
    intro textOf cursor gathered last
    rw [ends_repetition_iff]
    refine exists_congr fun row => and_congr_right fun completes => ?_
    have listed : rules.Ends (form.parser .array body) cursor
        (.ok ⟨(row.map Match.value).toArray, last⟩) :=
      ends_repetition_iff.mpr ⟨row, completes, (Collector.collect_array _).symm⟩
    rw [and_iff_right listed, ← Collector.toList_collect_text, String.toList_inj]

end Rules

end Descent
