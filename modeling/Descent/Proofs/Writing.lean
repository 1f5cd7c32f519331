import Descent.Proofs.Chain
import Descent.Proofs.Tokens

/-!
# Reading what is written

Values may be written down as texts. A reading gets them back if it reads every text that
is written for a value, and outputs the value. As it never goes back, it has to find out by
itself where a text ends, so it matters what stands behind the text: a number ends where no
digit follows. Here this is known for the forms of reading that written texts are made of,
from the tokens that may follow.
-/

namespace Descent.Reading

variable {τ α β γ : Type}

/-- The reading reads every phrase for a value, and outputs the value, wherever there are
only certain tokens behind the phrase. -/
def Reads (reading : Reading τ α) (follows : τ → Bool) (phrase : List τ → α → Prop) : Prop :=
  ∀ ⦃cursor next : Cursor τ⦄ ⦃text : List τ⦄ ⦃value : α⦄, phrase text value →
    cursor.Passes text next → next.NextIs follows →
    reading cursor = some (.ok ⟨value, next⟩)

/-- With certain tokens behind it, a phrase begins with certain tokens, or it is empty and
those behind it are such tokens. -/
def Opens (phrase : List τ → α → Prop) (opening follows : τ → Bool) : Prop :=
  ∀ ⦃cursor next : Cursor τ⦄ ⦃text : List τ⦄ ⦃value : α⦄, phrase text value →
    cursor.Passes text next → next.NextIs follows → cursor.NextIs opening

theorem opens_any {phrase : List τ → α → Prop} {follows : τ → Bool} :
    Opens phrase (fun _ => true) follows := by
  intro cursor next text value written passes allowed token head
  rfl

/-- A phrase that is not empty begins with its first token. -/
theorem opens_of_cons {phrase : List τ → α → Prop} {opening follows : τ → Bool}
    (begins : ∀ text value, phrase text value →
      ∃ first rest, text = first :: rest ∧ opening first = true) :
    Opens phrase opening follows := by
  intro cursor next text value written passes allowed
  obtain ⟨first, rest, rfl, opened⟩ := begins text value written
  exact (passes.nextIs_iff opening).mpr opened

/-- The texts of items, each of which stands for the value of its item. -/
def Written {ι : Type} (text : ι → List τ) (value : ι → α) : List τ → α → Prop :=
  fun phrase output => ∃ item, phrase = text item ∧ output = value item

/-! ## Phrases in a row -/

/-- Phrases one behind the other, with their values. -/
inductive InRow (phrase : List τ → α → Prop) : List τ → List α → Prop where
  | nil : InRow phrase [] []
  | cons {text rest : List τ} {value : α} {values : List α} (first : phrase text value)
      (more : InRow phrase rest values) : InRow phrase (text ++ rest) (value :: values)

section

variable {phrase : List τ → α → Prop} {opening follows : τ → Bool}

theorem inRow_flatMap {ι : Type} {text : ι → List τ} {value : ι → α} (items : List ι)
    (written : ∀ item ∈ items, phrase (text item) (value item)) :
    InRow phrase (items.flatMap text) (items.map value) := by
  induction items with
  | nil => exact .nil
  | cons item items inductionHypothesis =>
      apply InRow.cons (written item List.mem_cons_self)
      apply inductionHypothesis
      intro other member
      exact written other (List.mem_cons_of_mem item member)

theorem inRow_written {ι : Type} (text : ι → List τ) (value : ι → α) (items : List ι) :
    InRow (Written text value) (items.flatMap text) (items.map value) :=
  inRow_flatMap items fun item _ => ⟨item, rfl, rfl⟩

/-- A row begins as its first phrase does. -/
theorem opens_inRow (opens : Opens phrase opening opening)
    (apart : ∀ token, follows token = true → opening token = true) :
    Opens (InRow phrase) opening follows := by
  intro cursor next text values row passes allowed
  induction row generalizing cursor with
  | nil =>
      cases passes.eq_of_nil
      intro token head
      exact apart token (allowed token head)
  | cons first more inductionHypothesis =>
      obtain ⟨between, firstPasses, morePasses⟩ := passes.split
      exact opens first firstPasses (inductionHypothesis morePasses)

end

/-! ## Forms of reading -/

namespace Reads

variable {reading : Reading τ α} {other : Reading τ β} {follows between : τ → Bool}
variable {phrase : List τ → α → Prop} {otherPhrase : List τ → β → Prop}

/-- The same texts may be described in another way. -/
theorem imp (reads : reading.Reads follows phrase) {written : List τ → α → Prop}
    (isPhrase : ∀ text value, written text value → phrase text value) :
    reading.Reads follows written := by
  intro cursor next text value holds passes allowed
  exact reads (isPhrase text value holds) passes allowed

theorem satisfy [Token τ] (expected : String) (accepts : τ → Bool) :
    (Reading.satisfy expected accepts).Reads follows
      fun text token => text = [token] ∧ accepts token = true := by
  rintro cursor next text token ⟨rfl, accepted⟩ passes allowed
  exact satisfy_eq_ok.mpr ⟨Cursor.peek_eq_some_iff.mpr passes, accepted⟩

theorem map (reads : reading.Reads follows phrase) (function : α → β) :
    (reading.map function).Reads follows
      fun text value => ∃ before, phrase text before ∧ value = function before := by
  rintro cursor next text value ⟨before, written, rfl⟩ passes allowed
  exact map_eq_ok.mpr ⟨_, reads written passes allowed, rfl⟩

/-- Behind the first phrase stands the second one. -/
theorem sequence (reads : reading.Reads between phrase)
    (otherReads : other.Reads follows otherPhrase) (opens : Opens otherPhrase between follows)
    (combine : α → β → γ) :
    (Reading.sequence combine reading other).Reads follows fun text value =>
      ∃ ahead behind first second, phrase ahead first ∧ otherPhrase behind second ∧
        text = ahead ++ behind ∧ value = combine first second := by
  rintro cursor next _ _ ⟨ahead, behind, first, second, written, otherWritten, rfl, rfl⟩
    passes allowed
  obtain ⟨middle, aheadPasses, behindPasses⟩ := passes.split
  have opened := opens otherWritten behindPasses allowed
  exact sequence_eq_ok.mpr ⟨_, _, reads written aheadPasses opened,
    otherReads otherWritten behindPasses allowed, rfl⟩

/-- The second alternative is for what the first one refuses. -/
theorem choice {second : Reading τ α} {secondPhrase : List τ → α → Prop}
    (reads : reading.Reads follows phrase) (secondReads : second.Reads follows secondPhrase)
    (refuses : ∀ cursor, cursor.NextIs between →
      ∃ error, reading cursor = some (.error error))
    (opens : Opens secondPhrase between follows) :
    (Reading.choice reading second).Reads follows
      fun text value => phrase text value ∨ secondPhrase text value := by
  intro cursor next text value written passes allowed
  cases written with
  | inl written =>
      rw [Reading.choice, reads written passes allowed]
  | inr written =>
      obtain ⟨error, refused⟩ := refuses cursor (opens written passes allowed)
      rw [Reading.choice, refused, secondReads written passes allowed]

end Reads

/-! ## Repetition -/

/-- Phrases in a row can be told apart: each of them may follow the one before it, and at
what may follow the row there is no other phrase. -/
structure Separates (reading : Reading τ α) (between follows : τ → Bool)
    (phrase : List τ → α → Prop) : Prop where
  forward : reading.Forward
  reads : reading.Reads between phrase
  nonempty : ∀ text value, phrase text value → text ≠ []
  opens : Opens phrase between between
  apart : ∀ token, follows token = true → between token = true
  stops : ∀ cursor, cursor.NextIs follows →
    ∃ error, reading cursor = some (.error error) ∧ error.isRecoverable = true

namespace Separates

variable {reading : Reading τ α} {between follows : τ → Bool} {phrase : List τ → α → Prop}

/-- Tokens that pass a test end at one that does not. -/
theorem satisfy [Token τ] (expected : String) {accepts : τ → Bool}
    (apart : ∀ token, follows token = true → accepts token = false) :
    (Reading.satisfy expected accepts).Separates (fun _ => true) follows
      fun text token => text = [token] ∧ accepts token = true where
  forward := .satisfy expected accepts
  reads := .satisfy expected accepts
  nonempty := by
    rintro _ token ⟨rfl, accepted⟩
    exact List.cons_ne_nil token []
  opens := opens_any
  apart token allowed := rfl
  stops := by
    intro cursor allowed
    have refused : cursor.NextIs fun token => !accepts token := by
      apply allowed.imp
      intro token follow
      simp [apart token follow]
    exact ⟨_, satisfy_eq_error.mpr ⟨refused, rfl⟩, isRecoverable_unexpected _ _⟩

/-- The phrases of a row are matches in a row. -/
theorem chain (separates : reading.Separates between follows phrase) {cursor next : Cursor τ}
    {text : List τ} {values : List α} (row : InRow phrase text values)
    (passes : cursor.Passes text next) (allowed : next.NextIs follows) :
    reading.Chain cursor values next := by
  induction row generalizing cursor with
  | nil =>
      cases passes.eq_of_nil
      exact .nil next
  | cons first more inductionHypothesis =>
      -- Behind the first phrase stands the next one or, if it is the last, what follows the
      -- row. Either may follow a phrase.
      obtain ⟨middle, firstPasses, morePasses⟩ := passes.split
      have opened := opens_inRow separates.opens separates.apart more morePasses allowed
      exact .cons (separates.reads first firstPasses opened)
        (firstPasses.beq_eq_false (separates.nonempty _ _ first))
        (inductionHypothesis morePasses)

/-- A repetition reads a row up to what follows it. -/
theorem zeroOrMore (separates : reading.Separates between follows phrase)
    (collector : Collector α γ) :
    (Reading.zeroOrMore collector reading).Reads follows fun text gathered =>
      ∃ values, InRow phrase text values ∧ gathered = collector.collect values := by
  rintro cursor next text _ ⟨values, row, rfl⟩ passes allowed
  obtain ⟨error, failed, recoverable⟩ := separates.stops next allowed
  have chain := separates.chain row passes allowed
  exact chain.zeroOrMore_eq separates.forward failed recoverable collector

/-- In a list, the values of a row are kept as they are. -/
theorem many (separates : reading.Separates between follows phrase) :
    (Reading.map Array.toList (Reading.zeroOrMore .array reading)).Reads follows
      (InRow phrase) := by
  refine ((separates.zeroOrMore .array).map Array.toList).imp ?_
  intro text values row
  exact ⟨values.toArray, ⟨values, row, (Collector.collect_array values).symm⟩, rfl⟩

end Separates

end Descent.Reading
