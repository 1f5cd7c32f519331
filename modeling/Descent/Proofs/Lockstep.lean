import Descent.Proofs.Correspondence

/-!
# Two runs side by side

Two runs of one parser from one cursor make the same turns, whatever they remember and
wherever in a parser value they are made: each asks the same parts at the same cursors
and gets the same outcomes. So it is enough to say how the two may stand to each other
at any one time, and that no part ever breaks this.

These are runs that correspond in the strictest way, in which every place belongs to
itself. What is shown here follows from what holds of corresponding runs.
-/

namespace Descent

/-- The entries that say that a part was built, by the part. -/
def Log.builtSites (log : Log) : List Site :=
  log.toList.filterMap fun entry =>
    match entry with
    | .built site _ => some site
    | _ => none

@[simp] theorem Log.builtSites_append (earlier later : Log) :
    Log.builtSites (earlier ++ later) = earlier.builtSites ++ later.builtSites := by
  simp only [Log.builtSites, Array.toList_append, List.filterMap_append]

@[simp] theorem Log.builtSites_ofNote (note : Option String) :
    (Log.ofNote note).builtSites = [] := by
  cases note <;> rfl

namespace Stage

variable {μ ν : Type}

/-- Both runs may log the same entries, unless these are about parts that were built. -/
def Quiet (stage : Stage μ ν) : Prop :=
  ∀ {memory log twinMemory twinLog} (entries : Log), entries.builtSites = [] →
    stage memory log twinMemory twinLog →
    stage memory (log ++ entries) twinMemory (twinLog ++ entries)

theorem Quiet.takesNotes {stage : Stage μ ν} (quiet : stage.Quiet) : stage.TakesNotes := by
  intro memory log twinMemory twinLog note stands
  exact quiet (Log.ofNote note) (Log.builtSites_ofNote note) stands

/-- The twin of a run that replies also replies, with the same outcome, and both stand
as they may. -/
def Answers {τ α : Type} (stage : Stage μ ν) (reply : Reply τ α μ)
    (twin : Option (Reply τ α ν)) : Prop :=
  ∃ answer, twin = some answer ∧ answer.outcome = reply.outcome ∧
    stage reply.memory reply.log answer.memory answer.log

end Stage

/-- Places and causes that correspond are the same. -/
def Correspondence.identity {τ : Type} : Correspondence τ where
  places cursor twin := twin = cursor
  causes cause twin := twin = cause
  remainingLength_eq same := by rw [same]
  beq_eq same otherSame := by rw [same, otherSame]
  causes_self cause := rfl
  isRecoverable_eq := ParseError.isRecoverable_eq_of_cause

/-- So are outcomes. -/
theorem Outcome.corresponds_identity {τ α : Type} {outcome twin : Outcome τ α} :
    outcome.Corresponds .identity (fun value twinValue => twinValue = value) twin ↔
      twin = outcome := by
  constructor
  · intro corresponds
    cases corresponds with
    | ok same places =>
        cases same
        cases places
        rfl
    | @error error twin places causes =>
        cases error
        cases twin
        cases places
        cases causes
        rfl
  · intro same
    cases same
    cases outcome with
    | ok found => exact .ok rfl rfl
    | error error => exact .error rfl rfl

namespace Attempt

variable {τ α β γ μ ν : Type}

/-- From wherever two runs may stand, an attempt and its twin bring them to where they
may stand again. -/
def Lockstep (stage : Stage μ ν) (site twinSite : Site) (attempt : Attempt τ α μ)
    (twin : Attempt τ α ν) : Prop :=
  ∀ ⦃memory log twinMemory twinLog cursor reply⦄,
    stage memory log twinMemory twinLog → attempt site memory cursor = some reply →
    (stage.after log twinLog).Answers reply (twin twinSite twinMemory cursor)

namespace Lockstep

variable {stage : Stage μ ν} {site twinSite : Site}

theorem iff_corresponds {attempt : Attempt τ α μ} {twin : Attempt τ α ν} :
    Lockstep stage site twinSite attempt twin ↔
      Corresponds stage .identity (fun value twinValue => twinValue = value) site twinSite
        attempt twin := by
  constructor
  · intro lockstep memory log twinMemory twinLog cursor twinCursor reply stands same replies
    cases same
    obtain ⟨answer, answers, outcome, ends⟩ := lockstep stands replies
    exact ⟨answer, answers, Outcome.corresponds_identity.mpr outcome, ends⟩
  · intro corresponds memory log twinMemory twinLog cursor reply stands replies
    obtain ⟨answer, answers, outcomes, ends⟩ := corresponds stands rfl replies
    exact ⟨answer, answers, Outcome.corresponds_identity.mp outcomes, ends⟩

/-! ## Single steps -/

/-- Both runs reply at once, with the same quiet entries. -/
theorem reply_at_once (quiet : stage.Quiet) {memory : μ} {twinMemory : ν}
    {log twinLog entries : Log} (silent : entries.builtSites = [])
    (stands : stage memory log twinMemory twinLog) (outcome : Outcome τ α) :
    (stage.after log twinLog).Answers ⟨outcome, memory, entries⟩
      (some ⟨outcome, twinMemory, entries⟩) :=
  ⟨_, rfl, rfl, quiet entries silent stands⟩

theorem pure (quiet : stage.Quiet) (value : α) :
    Lockstep stage site twinSite (Attempt.pure (τ := τ) value) (.pure value) :=
  iff_corresponds.mpr (.pure quiet.takesNotes rfl)

theorem fail (quiet : stage.Quiet) (cause : Cause) :
    Lockstep stage site twinSite (Attempt.fail (τ := τ) (α := α) cause) (.fail cause) :=
  iff_corresponds.mpr (.fail quiet.takesNotes rfl)

theorem satisfy [Token τ] (quiet : stage.Quiet) (note : Option String) (expected : String)
    (accepts : τ → Bool) :
    Lockstep stage site twinSite (.satisfy note expected accepts)
      (.satisfy note expected accepts) := by
  intro memory log twinMemory twinLog cursor reply stands replies
  simp only [Attempt.satisfy] at replies ⊢
  split at replies
  · cases replies
    exact reply_at_once quiet rfl stands _
  · next token rest seen =>
      split at replies
      · next accepted =>
          rw [if_pos accepted]
          cases replies
          exact reply_at_once quiet (Log.builtSites_ofNote note) stands _
      · next refused =>
          rw [if_neg refused]
          cases replies
          exact reply_at_once quiet (Log.builtSites_ofNote note) stands _

theorem tokens [Token τ] (quiet : stage.Quiet) (run : List τ) :
    Lockstep stage site twinSite (.tokens run) (.tokens run) := by
  intro memory log twinMemory twinLog cursor reply stands replies
  simp only [Attempt.tokens] at replies ⊢
  split at replies
  · next matched =>
      rw [if_pos matched]
      cases replies
      exact reply_at_once quiet rfl stands _
  · next different =>
      rw [if_neg different]
      cases replies
      exact reply_at_once quiet rfl stands _

theorem eof [Token τ] (quiet : stage.Quiet) :
    Lockstep stage site twinSite (Attempt.eof (τ := τ)) .eof := by
  intro memory log twinMemory twinLog cursor reply stands replies
  simp only [Attempt.eof] at replies ⊢
  split at replies
  · next ended =>
      rw [if_pos ended]
      cases replies
      exact reply_at_once quiet rfl stands _
  · next more =>
      rw [if_neg more]
      cases replies
      exact reply_at_once quiet rfl stands _

/-! ## One attempt after another -/

section Rows

variable {attempt first second : Attempt τ α μ} {twin firstTwin secondTwin : Attempt τ α ν}

theorem map (quiet : stage.Quiet) (lockstep : Lockstep stage site twinSite attempt twin)
    (note : Option String) (function : α → β) :
    Lockstep stage site twinSite (attempt.map note function) (twin.map note function) := by
  rw [iff_corresponds] at lockstep ⊢
  exact lockstep.map quiet.takesNotes note (congrArg function)

theorem flatMap (quiet : stage.Quiet) (lockstep : Lockstep stage site twinSite attempt twin)
    (note : Option String) {binder : α → Attempt τ β μ}
    {binderTwin : α → Attempt τ β ν}
    (chosen : ∀ output, Lockstep stage site twinSite (binder output) (binderTwin output)) :
    Lockstep stage site twinSite (attempt.flatMap note binder)
      (twin.flatMap note binderTwin) := by
  rw [iff_corresponds] at lockstep ⊢
  apply lockstep.flatMap quiet.takesNotes note
  intro output twinOutput same
  cases same
  exact iff_corresponds.mp (chosen output)

theorem sequence (quiet : stage.Quiet) {other : Attempt τ β μ} {otherTwin : Attempt τ β ν}
    (lockstep : Lockstep stage site twinSite attempt twin)
    (otherLockstep : Lockstep stage site twinSite other otherTwin) (note : Option String)
    (combine : α → β → γ) :
    Lockstep stage site twinSite (.sequence note combine attempt other)
      (.sequence note combine twin otherTwin) := by
  rw [sequence_eq_flatMap, sequence_eq_flatMap]
  exact lockstep.flatMap quiet none fun output =>
    otherLockstep.map quiet note (combine output)

theorem choice (lockstep : Lockstep stage site twinSite first firstTwin)
    (otherLockstep : Lockstep stage site twinSite second secondTwin) :
    Lockstep stage site twinSite (.choice first second) (.choice firstTwin secondTwin) := by
  rw [iff_corresponds] at lockstep otherLockstep ⊢
  exact lockstep.choice otherLockstep

theorem tap (quiet : stage.Quiet) (lockstep : Lockstep stage site twinSite attempt twin)
    (label : String) :
    Lockstep stage site twinSite (attempt.tap label) (twin.tap label) := by
  rw [iff_corresponds] at lockstep ⊢
  apply lockstep.tap label
  intro memory log twinMemory twinLog cursor twinCursor stands same
  cases same
  exact quiet #[.visited label cursor.position] rfl stands

end Rows

/-! ## Repetition -/

section Loops

variable {attempt : Attempt τ α μ} {twin : Attempt τ α ν}

/-- A collector gathers equal outputs into equal things. -/
theorem gathers (collector : Collector α γ) :
    Corresponds.Gathers (fun value twinValue => twinValue = value)
      (fun items twinItems => twinItems = items) collector collector where
  start := rfl
  push same alike := by rw [same, alike]

theorem zeroOrMore (quiet : stage.Quiet)
    (lockstep : Lockstep stage site twinSite attempt twin) (collector : Collector α γ) :
    Lockstep stage site twinSite (.zeroOrMore collector attempt)
      (.zeroOrMore collector twin) := by
  rw [iff_corresponds] at lockstep ⊢
  exact lockstep.zeroOrMore quiet.takesNotes (gathers collector)

theorem oneOrMore (quiet : stage.Quiet)
    (lockstep : Lockstep stage site twinSite attempt twin) (collector : Collector α γ) :
    Lockstep stage site twinSite (.oneOrMore collector attempt)
      (.oneOrMore collector twin) := by
  rw [iff_corresponds] at lockstep ⊢
  exact lockstep.oneOrMore quiet.takesNotes (gathers collector)

theorem count (quiet : stage.Quiet)
    (lockstep : Lockstep stage site twinSite attempt twin) (bounds : Bounds)
    (collector : Collector α γ) :
    Lockstep stage site twinSite (.count bounds collector attempt)
      (.count bounds collector twin) := by
  rw [iff_corresponds] at lockstep ⊢
  exact lockstep.count quiet.takesNotes (gathers collector) bounds

end Loops

end Lockstep

end Attempt

end Descent
