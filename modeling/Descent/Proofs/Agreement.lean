import Descent.Proofs.Locality

/-!
# Readings that agree

Two readings agree if they go the same way from corresponding places on: where one ends, the
other one ends as well, in the same manner and at a corresponding place. They need not be
readings of one parser or on one source, and what they output need not be the same.

A reading is also an attempt, one that remembers and logs nothing. So what operations make
of corresponding attempts is known of readings that agree, and loops and choices need not be
looked at again. Only single steps are, because they look at tokens.
-/

namespace Descent

/-- Two runs may stand to each other in any way. -/
def Stage.free : Stage := fun _ _ _ _ => True

theorem Stage.takesNotes_free : Stage.free.TakesNotes := by
  intro memory log twinMemory twinLog note stands
  trivial

namespace Reading

variable {τ α β γ δ ε ζ : Type}

/-- The attempt that ends as the reading does and leaves no traces. -/
def attempt (reading : Reading τ α) : Attempt τ α := fun _ memory cursor =>
  (reading cursor).map fun outcome => ⟨outcome, memory, #[]⟩

theorem attempt_shows (reading : Reading τ α) : reading.attempt.Shows reading := by
  intro site memory cursor
  rw [attempt, Option.map_map]
  exact Option.map_id_apply

/-- Where the first reading ends, the second one ends at a corresponding place, in a
corresponding way. -/
def Agrees (between : Correspondence τ) (values : α → β → Prop) (reading : Reading τ α)
    (twin : Reading τ β) : Prop :=
  ∀ ⦃cursor twinCursor outcome⦄, between.places cursor twinCursor →
    reading cursor = some outcome →
    ∃ answer, twin twinCursor = some answer ∧ outcome.Corresponds between values answer

namespace Agrees

variable {between : Correspondence τ} {values : α → β → Prop} {others : γ → δ → Prop}
variable {reading first second : Reading τ α} {twin firstTwin secondTwin : Reading τ β}

/-! ## Attempts -/

/-- Readings that agree belong to attempts that correspond, whatever is remembered. -/
theorem corresponds (agrees : Agrees between values reading twin) (site twinSite : Site) :
    Attempt.Corresponds .free between values site twinSite reading.attempt twin.attempt := by
  intro memory log twinMemory twinLog cursor twinCursor reply stands places replies
  cases read : reading cursor with
  | none => simp [attempt, read] at replies
  | some outcome =>
      simp only [attempt, read, Option.map_some, Option.some.injEq] at replies
      cases replies
      obtain ⟨answer, twinRead, outcomes⟩ := agrees places read
      exact ⟨⟨answer, twinMemory, #[]⟩, by simp [attempt, twinRead], outcomes, trivial⟩

/-- Attempts that correspond show readings that agree. -/
theorem of_corresponds {attempt : Attempt τ α} {twinAttempt : Attempt τ β}
    (shown : attempt.Shows reading) (twinShown : twinAttempt.Shows twin)
    (corresponds : Attempt.Corresponds .free between values [] [] attempt twinAttempt) :
    Agrees between values reading twin := by
  intro cursor twinCursor outcome places read
  rw [← shown [] .blank cursor] at read
  obtain ⟨reply, replies, same⟩ := Option.map_eq_some_iff.mp read
  cases same
  have stands : Stage.free .blank #[] .blank #[] := trivial
  obtain ⟨answer, answers, outcomes, _⟩ := corresponds stands places replies
  refine ⟨answer.outcome, ?_, outcomes⟩
  rw [← twinShown [] .blank twinCursor, answers]
  rfl

/-- Less may be asked of outputs. -/
theorem mono (agrees : Agrees between values reading twin) {weaker : α → β → Prop}
    (weaken : ∀ {value twinValue}, values value twinValue → weaker value twinValue) :
    Agrees between weaker reading twin := by
  intro cursor twinCursor outcome places read
  obtain ⟨answer, twinRead, outcomes⟩ := agrees places read
  refine ⟨answer, twinRead, ?_⟩
  cases outcomes with
  | ok alike rests => exact .ok (weaken alike) rests
  | error remainders causes => exact .error remainders causes

/-! ## Operations -/

theorem pure {value : α} {twinValue : β} (alike : values value twinValue) :
    Agrees between values (.pure value) (.pure twinValue) := by
  intro cursor twinCursor outcome places read
  cases read
  exact ⟨_, rfl, .ok alike places⟩

theorem fail {cause twinCause : Cause} (causes : between.causes cause twinCause) :
    Agrees between values (.fail cause) (.fail twinCause) := by
  intro cursor twinCursor outcome places read
  cases read
  exact ⟨_, rfl, .error places causes⟩

theorem map (agrees : Agrees between values reading twin) {function : α → γ}
    {twinFunction : β → δ}
    (alike : ∀ {value twinValue}, values value twinValue →
      others (function value) (twinFunction twinValue)) :
    Agrees between others (reading.map function) (twin.map twinFunction) := by
  apply of_corresponds (reading.attempt_shows.map none function)
    (twin.attempt_shows.map none twinFunction)
  exact (agrees.corresponds [] []).map Stage.takesNotes_free none alike

theorem sequence {other : Reading τ γ} {otherTwin : Reading τ δ}
    (agrees : Agrees between values reading twin)
    (otherAgrees : Agrees between others other otherTwin) {combine : α → γ → ε}
    {twinCombine : β → δ → ζ} {combined : ε → ζ → Prop}
    (alike : ∀ {value twinValue further twinFurther}, values value twinValue →
      others further twinFurther →
      combined (combine value further) (twinCombine twinValue twinFurther)) :
    Agrees between combined (.sequence combine reading other)
      (.sequence twinCombine twin otherTwin) := by
  apply of_corresponds
    (reading.attempt_shows.sequence other.attempt_shows none combine)
    (twin.attempt_shows.sequence otherTwin.attempt_shows none twinCombine)
  exact (agrees.corresponds [] []).sequence Stage.takesNotes_free
    (otherAgrees.corresponds [] []) none alike

theorem choice (agrees : Agrees between values first firstTwin)
    (otherAgrees : Agrees between values second secondTwin) :
    Agrees between values (.choice first second) (.choice firstTwin secondTwin) := by
  apply of_corresponds (first.attempt_shows.choice second.attempt_shows)
    (firstTwin.attempt_shows.choice secondTwin.attempt_shows)
  exact (agrees.corresponds [] []).choice (otherAgrees.corresponds [] [])

section Repetition

variable {gathered : γ → δ → Prop} {collector : Collector α γ} {twinCollector : Collector β δ}

theorem zeroOrMore (agrees : Agrees between values reading twin)
    (gathers : Attempt.Corresponds.Gathers values gathered collector twinCollector) :
    Agrees between gathered (.zeroOrMore collector reading)
      (.zeroOrMore twinCollector twin) := by
  apply of_corresponds (reading.attempt_shows.zeroOrMore collector)
    (twin.attempt_shows.zeroOrMore twinCollector)
  exact (agrees.corresponds [] []).zeroOrMore Stage.takesNotes_free gathers

theorem oneOrMore (agrees : Agrees between values reading twin)
    (gathers : Attempt.Corresponds.Gathers values gathered collector twinCollector) :
    Agrees between gathered (.oneOrMore collector reading)
      (.oneOrMore twinCollector twin) := by
  apply of_corresponds (reading.attempt_shows.oneOrMore collector)
    (twin.attempt_shows.oneOrMore twinCollector)
  exact (agrees.corresponds [] []).oneOrMore Stage.takesNotes_free gathers

theorem count (agrees : Agrees between values reading twin)
    (gathers : Attempt.Corresponds.Gathers values gathered collector twinCollector)
    (bounds : Bounds) :
    Agrees between gathered (.count bounds collector reading)
      (.count bounds twinCollector twin) := by
  apply of_corresponds (reading.attempt_shows.count bounds collector)
    (twin.attempt_shows.count bounds twinCollector)
  exact (agrees.corresponds [] []).count Stage.takesNotes_free gathers bounds

end Repetition

end Agrees

end Reading

/-! ## Tokens that match -/

/-- The causes are of one kind. Of mismatches it is said in related words what was wanted;
what was found instead is left out of account. -/
inductive Cause.Resembles (wanted : String → String → Prop) : Cause → Cause → Prop where
  | mismatch {expected twinExpected : String} (words : wanted expected twinExpected)
      (actual twinActual : String) :
      Resembles wanted (.mismatch expected actual) (.mismatch twinExpected twinActual)
  | self (cause : Cause) : Resembles wanted cause cause

theorem Cause.Resembles.isRecoverable_eq {τ : Type} {wanted : String → String → Prop}
    {error twin : ParseError τ} (resembles : error.cause.Resembles wanted twin.cause) :
    twin.isRecoverable = error.isRecoverable := by
  rcases error with ⟨remainder, cause⟩
  rcases twin with ⟨twinRemainder, twinCause⟩
  cases resembles <;> rfl

/-- Two cursors with as many tokens left, which match one by one. -/
structure Cursor.Faces {τ : Type} (matching : τ → τ → Prop) (near far : Cursor τ) : Prop where
  alike : List.Forall₂ matching near.remaining far.remaining

namespace Cursor.Faces

variable {τ : Type} {matching : τ → τ → Prop} {near far cursor twin : Cursor τ}

theorem remainingLength_eq (faces : near.Faces matching far) :
    far.remainingLength = near.remainingLength := by
  rw [← length_remaining, ← length_remaining]
  exact faces.alike.length_eq.symm

/-- The tokens still match after reading on equally far. -/
theorem onward (faces : near.Faces matching far) (follows : Follows near far cursor twin) :
    cursor.Faces matching twin := by
  constructor
  rw [follows.leads.remaining_eq, follows.twinLeads.remaining_eq, follows.steps_eq]
  exact List.forall₂_drop _ faces.alike

theorem window (faces : near.Faces matching far) (count : Nat) :
    List.Forall₂ matching (near.window count) (far.window count) := by
  rw [window_eq_take, window_eq_take]
  exact List.forall₂_take count faces.alike

theorem atEnd_eq (faces : near.Faces matching far) : far.atEnd = near.atEnd := by
  rw [Bool.eq_iff_iff, atEnd_iff_remaining, atEnd_iff_remaining, ← List.length_eq_zero_iff,
    ← List.length_eq_zero_iff, faces.alike.length_eq]

end Cursor.Faces

namespace Correspondence

variable {τ : Type} {matching : τ → τ → Prop} {wanted : String → String → Prop}
variable {near far : Cursor τ}

/-- Places correspond if they are equally far behind two cursors with matching tokens left,
and causes if they resemble each other. -/
def facing (wanted : String → String → Prop) (faces : near.Faces matching far) :
    Correspondence τ where
  places := Cursor.Follows near far
  causes := Cause.Resembles wanted
  remainingLength_eq places := places.remainingLength_eq faces.remainingLength_eq
  beq_eq places otherPlaces := places.beq_eq otherPlaces
  causes_self := .self
  isRecoverable_eq resembles := resembles.isRecoverable_eq

variable {faces : near.Faces matching far} {cursor twin : Cursor τ}

theorem causes_unexpected [Token τ] {expected twinExpected : String}
    (words : wanted expected twinExpected) (cursor twin : Cursor τ) :
    (facing wanted faces).causes (ParseError.unexpected cursor expected).cause
      (ParseError.unexpected twin twinExpected).cause := by
  simp only [ParseError.unexpected]
  split <;> split <;> exact .mismatch words _ _

theorem unexpected [Token τ] {α β : Type} {values : α → β → Prop}
    {expected twinExpected : String} (words : wanted expected twinExpected)
    (places : (facing wanted faces).places cursor twin) :
    Outcome.Corresponds (facing wanted faces) values (.error (.unexpected cursor expected))
      (.error (.unexpected twin twinExpected)) := by
  apply Outcome.Corresponds.error
  · simpa using places
  · exact causes_unexpected words cursor twin

end Correspondence

namespace Reading.Agrees

variable {τ : Type} [Token τ] {matching : τ → τ → Prop} {wanted : String → String → Prop}
variable {near far : Cursor τ} {faces : near.Faces matching far}

/-- One test accepts what the other one does of matching tokens. -/
theorem satisfy {values : τ → τ → Prop} {expected twinExpected : String}
    {accepts twinAccepts : τ → Bool} (words : wanted expected twinExpected)
    (alike : ∀ {token twin}, matching token twin → twinAccepts twin = accepts token)
    (outputs : ∀ {token twin}, matching token twin → values token twin) :
    Agrees (.facing wanted faces) values (.satisfy expected accepts)
      (.satisfy twinExpected twinAccepts) := by
  intro cursor twin outcome places read
  have left := (faces.onward places).alike
  have onward := places.advance faces.remainingLength_eq 1
  simp only [Reading.satisfy, Cursor.peek_eq] at read ⊢
  cases tokensLeft : cursor.remaining with
  | nil =>
      rw [tokensLeft] at left read
      rw [List.forall₂_nil_left_iff.mp left]
      cases read
      exact ⟨_, rfl, Correspondence.unexpected words places⟩
  | cons token rest =>
      rw [tokensLeft] at left read
      obtain ⟨twinToken, twinRest, pair, _, twinLeft⟩ := List.forall₂_cons_left_iff.mp left
      rw [twinLeft]
      simp only [List.head?_cons, Option.map_some, alike pair] at read ⊢
      cases accepted : accepts token with
      | true =>
          rw [accepted] at read
          cases read
          exact ⟨_, rfl, .ok (outputs pair) onward⟩
      | false =>
          rw [accepted] at read
          cases read
          exact ⟨_, rfl, Correspondence.unexpected words places⟩

/-- A run of tokens stands where one of matching tokens stands, if no token can be told from
one that it matches. -/
theorem tokens {values : List τ → List τ → Prop} {run : List τ}
    (words : wanted (Token.describeAll run) (Token.describeAll run))
    (alike : ∀ {token twin : τ} (other : τ), matching token twin →
      (twin == other) = (token == other))
    (outputs : values run run) :
    Agrees (.facing wanted faces) values (.tokens run) (.tokens run) := by
  intro cursor twin outcome places read
  have window := (faces.onward places).window run.length
  have onward := places.advance faces.remainingLength_eq
  have matched : (twin.window run.length == run) = (cursor.window run.length == run) :=
    beq_eq_of_forall₂ alike window run
  simp only [Reading.tokens, matched, ← window.length_eq] at read ⊢
  split at read
  · next stands =>
      cases read
      rw [if_pos stands]
      exact ⟨_, rfl, .ok outputs (onward _)⟩
  · next differs =>
      cases read
      rw [if_neg differs]
      exact ⟨_, rfl, .error places (.mismatch words _ _)⟩
where
  beq_eq_of_forall₂ {matching : τ → τ → Prop}
      (alike : ∀ {token twin : τ} (other : τ), matching token twin →
        (twin == other) = (token == other))
      {window twinWindow : List τ} (pairs : List.Forall₂ matching window twinWindow)
      (run : List τ) : (twinWindow == run) = (window == run) := by
    induction pairs generalizing run with
    | nil => rfl
    | cons pair rest inductionHypothesis =>
        cases run with
        | nil => rfl
        | cons token run =>
            rw [List.cons_beq_cons, List.cons_beq_cons, alike token pair,
              inductionHypothesis run]

theorem eof {values : Unit → Unit → Prop} (words : wanted endOfInput endOfInput)
    (outputs : values () ()) :
    Agrees (.facing wanted faces) values (Reading.eof (τ := τ)) .eof := by
  intro cursor twin outcome places read
  have ended := (faces.onward places).atEnd_eq
  simp only [Reading.eof, ended] at read ⊢
  split at read
  · next last =>
      cases read
      rw [if_pos last]
      exact ⟨_, rfl, .ok outputs places⟩
  · next more =>
      cases read
      rw [if_neg more]
      exact ⟨_, rfl, Correspondence.unexpected words places⟩

end Reading.Agrees

end Descent
