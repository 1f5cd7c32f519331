import Descent.Proofs.Outcome

/-!
# Corresponding runs

Two runs correspond if they make the same turns at corresponding places. They need not
be runs of one parser, nor on one source. What a run does beyond reading tokens hangs on
how much is left where its failures are, on which cursors are equal, and on which failures
are mismatches; so if both runs see the same of these, operations keep them together.

What is shown here holds however places are paired and whatever the runs remember and
log. It takes care of all operations that hand their own site and memory on.
-/

namespace Descent

/-- How two runs may stand to each other: what the first remembers and has logged so
far, and the same of its twin. -/
abbrev Stage (μ : Type := Memory) (ν : Type := μ) := μ → Log → ν → Log → Prop

namespace Stage

variable {μ ν : Type}

/-- How the runs stand if each has logged something before. -/
def after (stage : Stage μ ν) (earlier twinEarlier : Log) : Stage μ ν :=
  fun memory log twinMemory twinLog =>
    stage memory (earlier ++ log) twinMemory (twinEarlier ++ twinLog)

/-- Both runs may log that the same function was called. -/
def TakesNotes (stage : Stage μ ν) : Prop :=
  ∀ {memory log twinMemory twinLog} (note : Option String),
    stage memory log twinMemory twinLog →
    stage memory (log ++ Log.ofNote note) twinMemory (twinLog ++ Log.ofNote note)

theorem TakesNotes.empty {stage : Stage μ ν} (notes : stage.TakesNotes)
    {memory : μ} {twinMemory : ν} {log twinLog : Log}
    (stands : stage memory log twinMemory twinLog) :
    stage.after log twinLog memory #[] twinMemory #[] :=
  notes none stands

theorem TakesNotes.after {stage : Stage μ ν} (notes : stage.TakesNotes)
    (earlier twinEarlier : Log) : (stage.after earlier twinEarlier).TakesNotes := by
  intro memory log twinMemory twinLog note stands
  simp only [Stage.after]
  rw [← Array.append_assoc, ← Array.append_assoc]
  exact notes note stands

end Stage

/-- Which places and which causes correspond in two runs. -/
structure Correspondence (τ : Type) where
  places : Cursor τ → Cursor τ → Prop
  causes : Cause → Cause → Prop
  /-- As much is left at corresponding places. -/
  remainingLength_eq : ∀ {cursor twin}, places cursor twin →
    twin.remainingLength = cursor.remainingLength
  /-- Two places are equal in both runs or in neither. -/
  beq_eq : ∀ {cursor twin other otherTwin}, places cursor twin → places other otherTwin →
    (twin == otherTwin) = (cursor == other)
  causes_self : ∀ cause, causes cause cause
  /-- A mismatch corresponds to mismatches only. -/
  isRecoverable_eq : ∀ {error twin : ParseError τ}, causes error.cause twin.cause →
    twin.isRecoverable = error.isRecoverable

/-- Outcomes correspond if they are of one kind, at corresponding places. -/
inductive Outcome.Corresponds {τ α β : Type} (between : Correspondence τ)
    (values : α → β → Prop) : Outcome τ α → Outcome τ β → Prop where
  | ok {value : α} {twinValue : β} {rest twinRest : Cursor τ}
      (alike : values value twinValue) (places : between.places rest twinRest) :
      Corresponds between values (.ok ⟨value, rest⟩) (.ok ⟨twinValue, twinRest⟩)
  | error {error twin : ParseError τ}
      (places : between.places error.remainder twin.remainder)
      (causes : between.causes error.cause twin.cause) :
      Corresponds between values (.error error) (.error twin)

/-- The twin of a run that replies also replies, with a corresponding outcome, and both
stand as they may. -/
def Correspondence.Answers {τ α β μ ν : Type} (between : Correspondence τ) (stage : Stage μ ν)
    (values : α → β → Prop) (reply : Reply τ α μ) (twin : Option (Reply τ β ν)) : Prop :=
  ∃ answer, twin = some answer ∧ reply.outcome.Corresponds between values answer.outcome ∧
    stage reply.memory reply.log answer.memory answer.log

namespace Attempt

variable {τ α β γ δ ε ζ μ ν : Type}

/-- From wherever two runs may stand, an attempt and its twin at corresponding places
bring them to where they may stand again. -/
def Corresponds (stage : Stage μ ν) (between : Correspondence τ) (values : α → β → Prop)
    (site twinSite : Site) (attempt : Attempt τ α μ) (twin : Attempt τ β ν) : Prop :=
  ∀ ⦃memory log twinMemory twinLog cursor twinCursor reply⦄,
    stage memory log twinMemory twinLog → between.places cursor twinCursor →
    attempt site memory cursor = some reply →
    between.Answers (stage.after log twinLog) values reply
      (twin twinSite twinMemory twinCursor)

namespace Corresponds

variable {stage : Stage μ ν} {between : Correspondence τ} {site twinSite : Site}
variable {values : α → β → Prop} {others : γ → δ → Prop}

/-- What both have logged before makes no difference. -/
theorem after {attempt : Attempt τ α μ} {twin : Attempt τ β ν}
    (corresponds : Corresponds stage between values site twinSite attempt twin)
    (earlier twinEarlier : Log) :
    Corresponds (stage.after earlier twinEarlier) between values site twinSite attempt
      twin := by
  intro memory log twinMemory twinLog cursor twinCursor reply stands places replies
  obtain ⟨answer, answers, outcomes, ends⟩ := corresponds stands places replies
  refine ⟨answer, answers, outcomes, ?_⟩
  simp only [Stage.after] at ends ⊢
  rw [← Array.append_assoc, ← Array.append_assoc]
  exact ends

/-! ## Single steps -/

theorem pure (notes : stage.TakesNotes) {value : α} {twinValue : β}
    (alike : values value twinValue) :
    Corresponds stage between values site twinSite (.pure value) (.pure twinValue) := by
  intro memory log twinMemory twinLog cursor twinCursor reply stands places replies
  cases replies
  exact ⟨_, rfl, .ok alike places, notes.empty stands⟩

theorem fail (notes : stage.TakesNotes) {cause twinCause : Cause}
    (causes : between.causes cause twinCause) :
    Corresponds stage between values site twinSite (.fail cause) (.fail twinCause) := by
  intro memory log twinMemory twinLog cursor twinCursor reply stands places replies
  cases replies
  exact ⟨_, rfl, .error places causes, notes.empty stands⟩

/-! ## One attempt after another -/

section Rows

variable {attempt first second : Attempt τ α μ} {twin firstTwin secondTwin : Attempt τ β ν}

theorem map (notes : stage.TakesNotes)
    (corresponds : Corresponds stage between values site twinSite attempt twin)
    (note : Option String) {function : α → γ} {twinFunction : β → δ}
    (alike : ∀ {value twinValue}, values value twinValue →
      others (function value) (twinFunction twinValue)) :
    Corresponds stage between others site twinSite (attempt.map note function)
      (twin.map note twinFunction) := by
  intro memory log twinMemory twinLog cursor twinCursor reply stands places replies
  obtain ⟨⟨outcome, middle, logged⟩, replied, more⟩ := Option.bind_eq_some_iff.mp replies
  obtain ⟨⟨_, twinMiddle, twinLogged⟩, answers, outcomes, ends⟩ :=
    corresponds stands places replied
  cases outcomes with
  | error places causes =>
      cases more
      refine ⟨⟨.error _, twinMiddle, twinLogged⟩, ?_, .error places causes, ends⟩
      simp [Attempt.map, answers]
  | ok same places =>
      cases more
      refine ⟨⟨.ok ⟨_, _⟩, twinMiddle, twinLogged ++ Log.ofNote note⟩, ?_,
        .ok (alike same) places, notes.after log twinLog note ends⟩
      simp [Attempt.map, answers]

theorem flatMap (notes : stage.TakesNotes)
    (corresponds : Corresponds stage between values site twinSite attempt twin)
    (note : Option String) {binder : α → Attempt τ γ μ}
    {binderTwin : β → Attempt τ δ ν}
    (chosen : ∀ {output twinOutput}, values output twinOutput →
      Corresponds stage between others site twinSite (binder output)
        (binderTwin twinOutput)) :
    Corresponds stage between others site twinSite (attempt.flatMap note binder)
      (twin.flatMap note binderTwin) := by
  intro memory log twinMemory twinLog cursor twinCursor reply stands places replies
  obtain ⟨⟨outcome, middle, logged⟩, replied, more⟩ := Option.bind_eq_some_iff.mp replies
  obtain ⟨⟨_, twinMiddle, twinLogged⟩, answers, outcomes, ends⟩ :=
    corresponds stands places replied
  cases outcomes with
  | error places causes =>
      cases more
      refine ⟨⟨.error _, twinMiddle, twinLogged⟩, ?_, .error places causes, ends⟩
      simp [Attempt.flatMap, answers]
  | @ok value twinValue rest twinRest same places =>
      obtain ⟨last, lastReplied, lastLogged⟩ := Option.bind_eq_some_iff.mp more
      have noted : stage middle (log ++ (logged ++ Log.ofNote note)) twinMiddle
          (twinLog ++ (twinLogged ++ Log.ofNote note)) := notes.after log twinLog note ends
      obtain ⟨lastAnswer, lastAnswers, lastOutcomes, lastEnds⟩ :=
        chosen same noted places lastReplied
      cases lastLogged
      refine ⟨lastAnswer.after (twinLogged ++ Log.ofNote note), ?_, lastOutcomes, ?_⟩
      · simp [Attempt.flatMap, answers, lastAnswers]
      · simp only [Stage.after] at lastEnds ⊢
        simpa only [Reply.memory_after, Reply.log_after, Array.append_assoc] using lastEnds

theorem sequence (notes : stage.TakesNotes) {other : Attempt τ γ μ} {otherTwin : Attempt τ δ ν}
    (corresponds : Corresponds stage between values site twinSite attempt twin)
    (otherCorresponds : Corresponds stage between others site twinSite other otherTwin)
    (note : Option String) {combine : α → γ → ε} {twinCombine : β → δ → ζ}
    {combined : ε → ζ → Prop}
    (alike : ∀ {value twinValue further twinFurther}, values value twinValue →
      others further twinFurther →
      combined (combine value further) (twinCombine twinValue twinFurther)) :
    Corresponds stage between combined site twinSite
      (.sequence note combine attempt other) (.sequence note twinCombine twin otherTwin) := by
  rw [sequence_eq_flatMap, sequence_eq_flatMap]
  exact corresponds.flatMap notes none fun same =>
    otherCorresponds.map notes note (alike same)

/-- Of two failures the same one is picked in both runs. -/
theorem furthest {error twin other otherTwin : ParseError τ}
    (places : between.places error.remainder twin.remainder)
    (causes : between.causes error.cause twin.cause)
    (otherPlaces : between.places other.remainder otherTwin.remainder)
    (otherCauses : between.causes other.cause otherTwin.cause) :
    Outcome.Corresponds between values (.error (error.furthest other))
      (.error (twin.furthest otherTwin)) := by
  have left : twin.remainingLength = error.remainingLength :=
    between.remainingLength_eq places
  have otherLeft : otherTwin.remainingLength = other.remainingLength :=
    between.remainingLength_eq otherPlaces
  simp only [ParseError.furthest, left, otherLeft]
  split
  · exact .error otherPlaces otherCauses
  · exact .error places causes

theorem choice (corresponds : Corresponds stage between values site twinSite first firstTwin)
    (otherCorresponds :
      Corresponds stage between values site twinSite second secondTwin) :
    Corresponds stage between values site twinSite (.choice first second)
      (.choice firstTwin secondTwin) := by
  intro memory log twinMemory twinLog cursor twinCursor reply stands places replies
  obtain ⟨⟨outcome, middle, logged⟩, replied, more⟩ := Option.bind_eq_some_iff.mp replies
  obtain ⟨⟨_, twinMiddle, twinLogged⟩, answers, outcomes, ends⟩ :=
    corresponds stands places replied
  cases outcomes with
  | ok same rests =>
      cases more
      refine ⟨⟨.ok ⟨_, _⟩, twinMiddle, twinLogged⟩, ?_, .ok same rests, ends⟩
      simp [Attempt.choice, answers]
  | @error error errorTwin remainders causes =>
      obtain ⟨⟨last, lastMemory, lastLogged⟩, lastReplied, picked⟩ :=
        Option.bind_eq_some_iff.mp more
      obtain ⟨⟨_, lastTwinMemory, lastTwinLogged⟩, lastAnswers, lastOutcomes, lastEnds⟩ :=
        otherCorresponds ends places lastReplied
      have joined : stage.after log twinLog lastMemory (logged ++ lastLogged) lastTwinMemory
          (twinLogged ++ lastTwinLogged) := by
        simp only [Stage.after] at lastEnds ⊢
        simpa only [Array.append_assoc] using lastEnds
      cases lastOutcomes with
      | ok same rests =>
          cases picked
          refine ⟨⟨.ok ⟨_, _⟩, lastTwinMemory, twinLogged ++ lastTwinLogged⟩, ?_,
            .ok same rests, joined⟩
          simp [Attempt.choice, answers, lastAnswers]
      | @error other otherTwin otherRemainders otherCauses =>
          cases picked
          refine ⟨⟨.error (errorTwin.furthest otherTwin), lastTwinMemory,
            twinLogged ++ lastTwinLogged⟩, ?_,
            furthest remainders causes otherRemainders otherCauses, joined⟩
          simp [Attempt.choice, answers, lastAnswers]

theorem tap (corresponds : Corresponds stage between values site twinSite attempt twin)
    (label : String)
    (visited : ∀ {memory log twinMemory twinLog cursor twinCursor},
      stage memory log twinMemory twinLog → between.places cursor twinCursor →
      stage memory (log ++ #[.visited label cursor.position]) twinMemory
        (twinLog ++ #[.visited label twinCursor.position])) :
    Corresponds stage between values site twinSite (attempt.tap label)
      (twin.tap label) := by
  intro memory log twinMemory twinLog cursor twinCursor reply stands places replies
  obtain ⟨middle, replied, logged⟩ := Option.bind_eq_some_iff.mp replies
  obtain ⟨answer, answers, outcomes, ends⟩ :=
    corresponds (visited stands places) places replied
  cases logged
  refine ⟨answer.after #[.visited label twinCursor.position], ?_, outcomes, ?_⟩
  · simp [Attempt.tap, answers]
  · simp only [Stage.after] at ends ⊢
    simpa only [Reply.memory_after, Reply.log_after, Array.append_assoc] using ends

end Rows

/-! ## Repetition -/

section Loops

variable {attempt : Attempt τ α μ} {twin : Attempt τ β ν}
variable {push : γ → α → γ} {twinPush : δ → β → δ} {gathered : γ → δ → Prop}

/-- A loop ends in both runs alike, with what it has gathered or with an error. -/
theorem stop {loop : Loop τ γ μ} {twinItems : δ} {twinCursor : Cursor τ}
    {twinMemory : ν} {twinLog : Log} {error errorTwin : ParseError τ}
    {memory : μ} {answerMemory : ν} {log answerLog : Log}
    (items : gathered loop.items twinItems) (places : between.places loop.cursor twinCursor)
    (remainders : between.places error.remainder errorTwin.remainder)
    (causes : between.causes error.cause errorTwin.cause)
    (ends : stage.after loop.log twinLog memory log answerMemory answerLog)
    {reply : Reply τ γ μ}
    (replies : (if error.isRecoverable then some (loop.succeed memory log)
      else some (loop.abort error memory log)) = some reply) :
    between.Answers stage gathered reply
      (if errorTwin.isRecoverable then
        some (Loop.succeed ⟨twinItems, twinCursor, twinMemory, twinLog⟩ answerMemory answerLog)
      else
        some (Loop.abort ⟨twinItems, twinCursor, twinMemory, twinLog⟩ errorTwin answerMemory
          answerLog)) := by
  rw [between.isRecoverable_eq causes]
  cases recoverable : error.isRecoverable with
  | true =>
      rw [recoverable] at replies
      cases replies
      exact ⟨_, rfl, .ok items places, ends⟩
  | false =>
      rw [recoverable] at replies
      cases replies
      exact ⟨_, rfl, .error remainders causes, ends⟩

theorem unlimited (corresponds : Corresponds stage between values site twinSite attempt twin)
    (alike : ∀ {items twinItems value twinValue}, gathered items twinItems →
      values value twinValue → gathered (push items value) (twinPush twinItems twinValue))
    {loop : Loop τ γ μ} {twinItems : δ} {twinCursor : Cursor τ} {twinMemory : ν}
    {twinLog : Log} {reply : Reply τ γ μ} (items : gathered loop.items twinItems)
    (places : between.places loop.cursor twinCursor)
    (stands : stage loop.memory loop.log twinMemory twinLog)
    (replies : loop.unlimited attempt push site = some reply) :
    between.Answers stage gathered reply
      (Loop.unlimited twin twinPush twinSite ⟨twinItems, twinCursor, twinMemory, twinLog⟩) := by
  unfold Loop.unlimited at replies ⊢
  cases replied : attempt site loop.memory loop.cursor with
  | none =>
      rw [replied] at replies
      cases replies
  | some middle =>
      obtain ⟨⟨_, answerMemory, answerLog⟩, answers, outcomes, ends⟩ :=
        corresponds stands places replied
      rcases middle with ⟨outcome, memory, log⟩
      rw [replied] at replies
      simp only [answers]
      cases outcomes with
      | error remainders causes =>
          exact stop items places remainders causes ends replies
      | @ok value twinValue rest twinRest same rests =>
          simp only [between.beq_eq rests places, between.remainingLength_eq rests,
            between.remainingLength_eq places] at replies ⊢
          split at replies
          · next still =>
              cases replies
              rw [if_pos still]
              exact ⟨_, rfl, .error places (between.causes_self .noProgress), ends⟩
          · next moved =>
              rw [if_neg moved]
              split at replies
              · next shorter =>
                  rw [if_pos shorter]
                  have onward : gathered (loop.step push ⟨value, rest⟩ memory log).items
                      (twinPush twinItems twinValue) := alike items same
                  exact corresponds.unlimited alike onward rests ends replies
              · cases replies
termination_by loop.cursor.remainingLength

theorem limited (notes : stage.TakesNotes)
    (corresponds : Corresponds stage between values site twinSite attempt twin)
    (alike : ∀ {items twinItems value twinValue}, gathered items twinItems →
      values value twinValue → gathered (push items value) (twinPush twinItems twinValue))
    {limit : Nat} {loop : Loop τ γ μ} {twinItems : δ} {twinCursor : Cursor τ}
    {twinMemory : ν} {twinLog : Log} {reply : Reply τ γ μ}
    (items : gathered loop.items twinItems) (places : between.places loop.cursor twinCursor)
    (stands : stage loop.memory loop.log twinMemory twinLog)
    (replies : loop.limited attempt push site limit = some reply) :
    between.Answers stage gathered reply
      (Loop.limited twin twinPush twinSite limit
        ⟨twinItems, twinCursor, twinMemory, twinLog⟩) := by
  induction limit generalizing loop twinItems twinCursor twinMemory twinLog with
  | zero =>
      cases replies
      exact ⟨_, rfl, .ok items places, notes.empty stands⟩
  | succ limit inductionHypothesis =>
      rw [Loop.limited] at replies ⊢
      cases replied : attempt site loop.memory loop.cursor with
      | none =>
          rw [replied] at replies
          cases replies
      | some middle =>
          obtain ⟨⟨_, answerMemory, answerLog⟩, answers, outcomes, ends⟩ :=
            corresponds stands places replied
          rcases middle with ⟨outcome, memory, log⟩
          rw [replied] at replies
          simp only [answers]
          cases outcomes with
          | error remainders causes =>
              exact stop items places remainders causes ends replies
          | @ok value twinValue rest twinRest same rests =>
              have onward : gathered (loop.step push ⟨value, rest⟩ memory log).items
                  (twinPush twinItems twinValue) := alike items same
              exact inductionHypothesis onward rests ends replies

theorem required (corresponds : Corresponds stage between values site twinSite attempt twin)
    (alike : ∀ {items twinItems value twinValue}, gathered items twinItems →
      values value twinValue → gathered (push items value) (twinPush twinItems twinValue))
    {onward : Loop τ γ μ → Option (Reply τ γ μ)}
    {onwardTwin : Loop τ δ ν → Option (Reply τ δ ν)}
    (onwardAnswers : ∀ {loop : Loop τ γ μ} {twinItems twinCursor twinMemory twinLog reply},
      gathered loop.items twinItems → between.places loop.cursor twinCursor →
      stage loop.memory loop.log twinMemory twinLog → onward loop = some reply →
      between.Answers stage gathered reply
        (onwardTwin ⟨twinItems, twinCursor, twinMemory, twinLog⟩))
    {count : Nat} {loop : Loop τ γ μ} {twinItems : δ} {twinCursor : Cursor τ}
    {twinMemory : ν} {twinLog : Log} {reply : Reply τ γ μ}
    (items : gathered loop.items twinItems) (places : between.places loop.cursor twinCursor)
    (stands : stage loop.memory loop.log twinMemory twinLog)
    (replies : loop.required attempt push site onward count = some reply) :
    between.Answers stage gathered reply
      (Loop.required twin twinPush twinSite onwardTwin count
        ⟨twinItems, twinCursor, twinMemory, twinLog⟩) := by
  induction count generalizing loop twinItems twinCursor twinMemory twinLog with
  | zero => exact onwardAnswers items places stands replies
  | succ count inductionHypothesis =>
      rw [Loop.required] at replies ⊢
      cases replied : attempt site loop.memory loop.cursor with
      | none =>
          rw [replied] at replies
          cases replies
      | some middle =>
          obtain ⟨⟨_, answerMemory, answerLog⟩, answers, outcomes, ends⟩ :=
            corresponds stands places replied
          rcases middle with ⟨outcome, memory, log⟩
          rw [replied] at replies
          simp only [answers]
          cases outcomes with
          | error remainders causes =>
              cases replies
              exact ⟨_, rfl, .error remainders causes, ends⟩
          | @ok value twinValue rest twinRest same rests =>
              have onward : gathered (loop.step push ⟨value, rest⟩ memory log).items
                  (twinPush twinItems twinValue) := alike items same
              exact inductionHypothesis onward rests ends replies

/-- Two collectors start alike, and stay so as they are given outputs that are alike. -/
structure Gathers (values : α → β → Prop) (gathered : γ → δ → Prop)
    (collector : Collector α γ) (twin : Collector β δ) : Prop where
  start : gathered collector.start twin.start
  push : ∀ {items twinItems value twinValue}, gathered items twinItems →
    values value twinValue → gathered (collector.push items value) (twin.push twinItems twinValue)

variable {collector : Collector α γ} {twinCollector : Collector β δ}

theorem zeroOrMore (notes : stage.TakesNotes)
    (corresponds : Corresponds stage between values site twinSite attempt twin)
    (gathers : Gathers values gathered collector twinCollector) :
    Corresponds stage between gathered site twinSite (.zeroOrMore collector attempt)
      (.zeroOrMore twinCollector twin) := by
  intro memory log twinMemory twinLog cursor twinCursor reply stands places replies
  exact (corresponds.after log twinLog).unlimited gathers.push gathers.start places
    (notes.empty stands) replies

theorem oneOrMore (notes : stage.TakesNotes)
    (corresponds : Corresponds stage between values site twinSite attempt twin)
    (gathers : Gathers values gathered collector twinCollector) :
    Corresponds stage between gathered site twinSite (.oneOrMore collector attempt)
      (.oneOrMore twinCollector twin) := by
  intro memory log twinMemory twinLog cursor twinCursor reply stands places replies
  obtain ⟨⟨outcome, middle, logged⟩, replied, more⟩ := Option.bind_eq_some_iff.mp replies
  obtain ⟨⟨_, twinMiddle, twinLogged⟩, answers, outcomes, ends⟩ :=
    (corresponds.after log twinLog) (notes.empty stands) places replied
  simp only [Attempt.oneOrMore, answers, Option.bind_eq_bind, Option.bind_some]
  cases outcomes with
  | error remainders causes =>
      cases more
      exact ⟨_, rfl, .error remainders causes, ends⟩
  | @ok value twinValue rest twinRest same rests =>
      simp only [between.beq_eq rests places] at more ⊢
      split at more
      · next still =>
          cases more
          rw [if_pos still]
          exact ⟨_, rfl, .error places (between.causes_self .noProgress), ends⟩
      · next moved =>
          rw [if_neg moved]
          have onward : gathered ((Loop.start collector.start middle cursor).step collector.push
              ⟨value, rest⟩ middle logged).items
              (twinCollector.push twinCollector.start twinValue) :=
            gathers.push gathers.start same
          exact (corresponds.after log twinLog).unlimited gathers.push onward rests ends more

theorem count (notes : stage.TakesNotes)
    (corresponds : Corresponds stage between values site twinSite attempt twin)
    (gathers : Gathers values gathered collector twinCollector) (bounds : Bounds) :
    Corresponds stage between gathered site twinSite (.count bounds collector attempt)
      (.count bounds twinCollector twin) := by
  intro memory log twinMemory twinLog cursor twinCursor reply stands places replies
  simp only [Attempt.count] at replies ⊢
  cases asked : bounds.quota with
  | error cause =>
      rw [asked] at replies
      cases replies
      exact ⟨_, rfl, .error places (between.causes_self cause), notes.empty stands⟩
  | ok quota =>
      rw [asked] at replies
      refine (corresponds.after log twinLog).required gathers.push ?_ gathers.start places
        (notes.empty stands) replies
      intro loop twinItems twinCursor twinMemory twinLater reply items places stands more
      cases extra : quota.extra with
      | none =>
          rw [extra] at more
          exact (corresponds.after log twinLog).unlimited gathers.push items places stands more
      | some limit =>
          rw [extra] at more
          exact (corresponds.after log twinLog).limited (notes.after log twinLog) gathers.push
            items places stands more

end Loops

end Corresponds

end Attempt

end Descent
