import Descent.Proofs.Reading
import Descent.Run.Store

/-!
# Outcomes of runs

A run ends as the reading of its parser says. Which part of a parser value is run,
and what that part remembers, has no bearing on the outcome: it shows in the log
only. Nor does it matter where references lead, or what a store holds that several
parser values have in common.
-/

namespace Descent

namespace Attempt

variable {τ α β γ μ : Type}

/-- Two attempts in a row are an attempt that goes on with another one, whatever the
output is. -/
theorem sequence_eq_flatMap (note : Option String) (combine : α → β → γ)
    (first : Attempt τ α μ) (second : Attempt τ β μ) :
    sequence note combine first second =
      first.flatMap none fun output => second.map note (combine output) := by
  funext site memory cursor
  rw [sequence, flatMap]
  cases first site memory cursor with
  | none => rfl
  | some reply =>
      rcases reply with ⟨outcome, between, log⟩
      cases outcome with
      | error error => rfl
      | ok found =>
          show Option.bind _ _ = Option.bind _ _
          dsimp only [Option.bind_some, map]
          cases second site between found.rest with
          | none => rfl
          | some next =>
              rcases next with ⟨outcome, after, later⟩
              cases outcome with
              | error error => simp [Reply.after, Log.ofNote]
              | ok further => simp [Reply.after, Log.ofNote, Array.append_assoc]

/-- Whatever is remembered and wherever the attempt is made, it ends as the reading
says. -/
def Shows (attempt : Attempt τ α μ) (reading : Reading τ α) : Prop :=
  ∀ site memory cursor, (attempt site memory cursor).map Reply.outcome = reading cursor

namespace Shows

section Parts

variable {attempt : Attempt τ α} {reading : Reading τ α}

theorem onLeft (shown : attempt.Shows reading) : attempt.onLeft.Shows reading := by
  intro site memory cursor
  rw [← shown (.left :: site) memory.left cursor, Attempt.onLeft]
  cases attempt (.left :: site) memory.left cursor <;> rfl

theorem onRight (shown : attempt.Shows reading) : attempt.onRight.Shows reading := by
  intro site memory cursor
  rw [← shown (.right :: site) memory.right cursor, Attempt.onRight]
  cases attempt (.right :: site) memory.right cursor <;> rfl

theorem onBound (shown : attempt.Shows reading) : attempt.onBound.Shows reading := by
  intro site memory cursor
  rw [← shown (.bound memory.right.calls :: site) .blank cursor, Attempt.onBound]
  cases attempt (.bound memory.right.calls :: site) .blank cursor <;> rfl

theorem onDemand (shown : attempt.Shows reading) (label : String) :
    (attempt.onDemand label).Shows reading := by
  intro site memory cursor
  cases memory with
  | opened inside =>
      rw [← shown (.inside :: site) inside cursor]
      show Option.map _ (Option.bind _ _) = _
      cases attempt (.inside :: site) inside cursor <;> rfl
  | blank | split _ _ | called _ =>
      rw [← shown (.inside :: site) .blank cursor]
      show Option.map _ (Option.bind _ _) = _
      cases attempt (.inside :: site) .blank cursor <;> rfl

end Parts

section Shared

variable {attempt : Attempt τ α Store} {reading : Reading τ α}

theorem behind (shown : attempt.Shows reading) (turn : Turn) :
    (attempt.behind turn).Shows reading :=
  fun site store cursor => shown (turn :: site) store cursor

theorem onCall (shown : attempt.Shows reading) : attempt.onCall.Shows reading :=
  fun site store cursor => shown (.bound store.calls :: site) store.call cursor

theorem onFirst (shown : attempt.Shows reading) (label : String) :
    (attempt.onFirst label).Shows reading := by
  intro site store cursor
  cases built : store.built site with
  | true =>
      rw [onFirst_of_built built]
      exact shown (.inside :: site) store cursor
  | false =>
      rw [onFirst_of_unbuilt built, Option.map_map]
      exact shown (.inside :: site) (store.build site) cursor

theorem byReference (shown : attempt.Shows reading) (number : Nat) :
    (attempt.byReference number).Shows reading :=
  fun _ store cursor => shown [.value number] store cursor

end Shared

/-! ## Single steps -/

theorem satisfy [Token τ] (note : Option String) (expected : String)
    (accepts : τ → Bool) :
    (Attempt.satisfy (μ := μ) note expected accepts).Shows (.satisfy expected accepts) := by
  intro site memory cursor
  rw [Attempt.satisfy, Reading.satisfy]
  cases cursor.peek with
  | none => rfl
  | some seen => cases accepted : accepts seen.1 <;> simp [accepted]

theorem tokens [Token τ] (run : List τ) : (Attempt.tokens (μ := μ) run).Shows (.tokens run) := by
  intro site memory cursor
  simp only [Attempt.tokens, Reading.tokens]
  cases cursor.window run.length == run <;> rfl

theorem eof [Token τ] : (Attempt.eof (τ := τ) (μ := μ)).Shows .eof := by
  intro site memory cursor
  rw [Attempt.eof, Reading.eof]
  cases cursor.atEnd <;> rfl

theorem pure (value : α) : (Attempt.pure (τ := τ) (μ := μ) value).Shows (.pure value) := by
  intro site memory cursor
  rfl

theorem fail (cause : Cause) :
    (Attempt.fail (τ := τ) (α := α) (μ := μ) cause).Shows (.fail cause) := by
  intro site memory cursor
  rfl

/-! ## One attempt after another -/

variable {first second : Attempt τ α μ} {reading firstReading secondReading : Reading τ α}

theorem map (shown : first.Shows reading) (note : Option String) (function : α → β) :
    (first.map note function).Shows (reading.map function) := by
  intro site memory cursor
  rw [Reading.map, Reading.andThen, ← shown site memory cursor, Attempt.map]
  cases first site memory cursor with
  | none => rfl
  | some reply =>
      rcases reply with ⟨outcome, after, log⟩
      cases outcome <;> rfl

theorem flatMap (shown : first.Shows reading) (note : Option String)
    {binder : α → Attempt τ β μ} {choose : α → Reading τ β}
    (chosen : ∀ output, (binder output).Shows (choose output)) :
    (first.flatMap note binder).Shows (reading.flatMap choose) := by
  intro site memory cursor
  rw [Reading.flatMap, Reading.andThen, ← shown site memory cursor, Attempt.flatMap]
  cases first site memory cursor with
  | none => rfl
  | some reply =>
      rcases reply with ⟨outcome, between, log⟩
      cases outcome with
      | error error => rfl
      | ok found =>
          show Option.map _ (Option.bind (binder _ _ _ _) _) = choose found.value found.rest
          rw [← chosen found.value site between found.rest]
          cases binder found.value site between found.rest <;> rfl

theorem sequence {other : Attempt τ β μ} {otherReading : Reading τ β}
    (shown : first.Shows reading) (otherShown : other.Shows otherReading)
    (note : Option String) (combine : α → β → γ) :
    (Attempt.sequence note combine first other).Shows
      (.sequence combine reading otherReading) := by
  rw [sequence_eq_flatMap]
  exact shown.flatMap none fun output => otherShown.map note (combine output)

theorem choice (firstShown : first.Shows firstReading)
    (secondShown : second.Shows secondReading) :
    (Attempt.choice first second).Shows (.choice firstReading secondReading) := by
  intro site memory cursor
  rw [Reading.choice, ← firstShown site memory cursor, Attempt.choice]
  cases first site memory cursor with
  | none => rfl
  | some reply =>
      rcases reply with ⟨outcome, between, log⟩
      cases outcome with
      | ok found => rfl
      | error error =>
          dsimp only [Option.map_some]
          rw [← secondShown site between cursor]
          show Option.map _ (Option.bind (second site between cursor) _) = _
          cases second site between cursor with
          | none => rfl
          | some next =>
              rcases next with ⟨outcome, after, later⟩
              cases outcome <;> rfl

theorem tap (shown : first.Shows reading) (label : String) :
    (first.tap label).Shows reading := by
  intro site memory cursor
  rw [← shown site memory cursor, Attempt.tap]
  cases first site memory cursor <;> rfl

/-! ## Repetition -/

variable {attempt : Attempt τ α μ}

theorem unlimited (shown : attempt.Shows reading) (push : γ → α → γ) (site : Site)
    (loop : Loop τ γ μ) :
    (loop.unlimited attempt push site).map Reply.outcome =
      reading.unlimited push loop.items loop.cursor := by
  rw [Loop.unlimited, Reading.unlimited, ← shown site loop.memory loop.cursor]
  cases attempt site loop.memory loop.cursor with
  | none => rfl
  | some reply =>
      rcases reply with ⟨outcome, memory, log⟩
      cases outcome with
      | error error =>
          cases recoverable : error.isRecoverable <;>
            simp [recoverable, Loop.succeed, Loop.abort]
      | ok found =>
          simp only [Option.map_some]
          split
          · rfl
          · split
            · exact unlimited shown push site (loop.step push found memory log)
            · rfl
termination_by loop.cursor.remainingLength

theorem limited (shown : attempt.Shows reading) (push : γ → α → γ) (site : Site)
    (limit : Nat) (loop : Loop τ γ μ) :
    (loop.limited attempt push site limit).map Reply.outcome =
      reading.limited push limit loop.items loop.cursor := by
  induction limit generalizing loop with
  | zero => rfl
  | succ limit inductionHypothesis =>
      rw [Loop.limited, Reading.limited, ← shown site loop.memory loop.cursor]
      cases attempt site loop.memory loop.cursor with
      | none => rfl
      | some reply =>
          rcases reply with ⟨outcome, memory, log⟩
          cases outcome with
          | error error =>
              cases recoverable : error.isRecoverable <;>
                simp [recoverable, Loop.succeed, Loop.abort]
          | ok found => exact inductionHypothesis (loop.step push found memory log)

theorem required (shown : attempt.Shows reading) (push : γ → α → γ) (site : Site)
    {onward : Loop τ γ μ → Option (Reply τ γ μ)} {next : γ → Cursor τ → Option (Outcome τ γ)}
    (onwardShown : ∀ loop, (onward loop).map Reply.outcome = next loop.items loop.cursor)
    (count : Nat) (loop : Loop τ γ μ) :
    (loop.required attempt push site onward count).map Reply.outcome =
      reading.required push next count loop.items loop.cursor := by
  induction count generalizing loop with
  | zero => exact onwardShown loop
  | succ count inductionHypothesis =>
      rw [Loop.required, Reading.required, Reading.andThen,
        ← shown site loop.memory loop.cursor]
      cases attempt site loop.memory loop.cursor with
      | none => rfl
      | some reply =>
          rcases reply with ⟨outcome, memory, log⟩
          cases outcome with
          | error error => rfl
          | ok found => exact inductionHypothesis (loop.step push found memory log)

theorem zeroOrMore (shown : attempt.Shows reading) (collector : Collector α γ) :
    (Attempt.zeroOrMore collector attempt).Shows (.zeroOrMore collector reading) := by
  intro site memory cursor
  exact shown.unlimited collector.push site (.start collector.start memory cursor)

theorem oneOrMore (shown : attempt.Shows reading) (collector : Collector α γ) :
    (Attempt.oneOrMore collector attempt).Shows (.oneOrMore collector reading) := by
  intro site memory cursor
  rw [Attempt.oneOrMore, Reading.oneOrMore, Reading.andThen, ← shown site memory cursor]
  cases attempt site memory cursor with
  | none => rfl
  | some reply =>
      rcases reply with ⟨outcome, between, log⟩
      cases outcome with
      | error error => rfl
      | ok found =>
          have rest := shown.unlimited collector.push site
            ((Loop.start collector.start between cursor).step collector.push found between log)
          cases still : found.rest == cursor with
          | true => simp [still, Loop.abort]
          | false => simpa [still, Loop.step, Loop.start] using rest

theorem count (shown : attempt.Shows reading) (bounds : Bounds)
    (collector : Collector α γ) :
    (Attempt.count bounds collector attempt).Shows (.count bounds collector reading) := by
  intro site memory cursor
  rw [Attempt.count, Reading.count]
  cases bounds.quota with
  | error cause => rfl
  | ok quota =>
      apply shown.required collector.push site
      intro loop
      cases quota.extra with
      | none => exact shown.unlimited collector.push site loop
      | some limit => exact shown.limited collector.push site limit loop

end Shows

end Attempt

/-! ## Parsers -/

variable {τ ρ : Type} [Token τ] {Out : ρ → Type} {α : Type}

theorem Parser.shows_reading (label : ρ → String) {enter : (name : ρ) → Attempt τ (Out name)}
    {enterReading : (name : ρ) → Reading τ (Out name)}
    (shown : ∀ name, (enter name).Shows (enterReading name)) (parser : Parser τ Out α) :
    (parser.attempt label enter).Shows (parser.reading enterReading) := by
  induction parser with
  | satisfy note expected accepts => exact .satisfy note expected accepts
  | tokens run => exact .tokens run
  | eof => exact .eof
  | pure value => exact .pure value
  | fail expected actual => exact .fail _
  | map note function parser ih => exact ih.map note function
  | flatMap note binder parser binderIH parserIH =>
      exact parserIH.onLeft.flatMap note fun output => (binderIH output).onBound
  | sequence note combine first second firstIH secondIH =>
      exact firstIH.onLeft.sequence secondIH.onRight note combine
  | twice parser ih => exact ih.sequence ih none Prod.mk
  | choice first second firstIH secondIH => exact firstIH.onLeft.choice secondIH.onRight
  | zeroOrMore collector parser ih => exact ih.zeroOrMore collector
  | oneOrMore collector parser ih => exact ih.oneOrMore collector
  | count bounds collector parser ih => exact ih.count bounds collector
  | delayed name parser ih => exact ih.onDemand name
  | rule name => exact (shown name).onDemand (label name)
  | tap name parser ih => exact ih.tap name

theorem Parser.shows_reading_of_shared (label : ρ → String) (refers : ρ → Option Nat)
    {enter : (name : ρ) → Attempt τ (Out name) Store}
    {enterReading : (name : ρ) → Reading τ (Out name)}
    (shown : ∀ name, (enter name).Shows (enterReading name)) (parser : Parser τ Out α) :
    (parser.attemptShared label refers enter).Shows (parser.reading enterReading) := by
  induction parser with
  | satisfy note expected accepts => exact .satisfy note expected accepts
  | tokens run => exact .tokens run
  | eof => exact .eof
  | pure value => exact .pure value
  | fail expected actual => exact .fail _
  | map note function parser ih => exact ih.map note function
  | flatMap note binder parser binderIH parserIH =>
      exact (parserIH.behind .left).flatMap note fun output => (binderIH output).onCall
  | sequence note combine first second firstIH secondIH =>
      exact (firstIH.behind .left).sequence (secondIH.behind .right) note combine
  | twice parser ih => exact ih.sequence ih none Prod.mk
  | choice first second firstIH secondIH =>
      exact (firstIH.behind .left).choice (secondIH.behind .right)
  | zeroOrMore collector parser ih => exact ih.zeroOrMore collector
  | oneOrMore collector parser ih => exact ih.oneOrMore collector
  | count bounds collector parser ih => exact ih.count bounds collector
  | delayed name parser ih => exact ih.onFirst name
  | rule name =>
      rw [Parser.attemptShared]
      cases refers name with
      | some number => exact (shown name).byReference number
      | none => exact (shown name).onFirst (label name)
  | tap name parser ih => exact ih.tap name

namespace Rules

theorem shows_readingAt (rules : Rules τ Out) (depth : Nat) (name : ρ) :
    (rules.attempt depth name).Shows (rules.readingAt depth name) := by
  induction depth generalizing name with
  | zero =>
      intro site memory cursor
      rfl
  | succ depth inductionHypothesis =>
      exact Parser.shows_reading rules.label inductionHypothesis (rules.body name)

/-- A run ends as the reading says, and has no end where the reading has no
outcome. -/
theorem outcome_run (rules : Rules τ Out) (depth : Nat) (parser : Parser τ Out α)
    (site : Site) (memory : Memory) (cursor : Cursor τ) :
    (rules.run depth parser site memory cursor).map Reply.outcome =
      rules.reading depth parser cursor :=
  Parser.shows_reading rules.label (rules.shows_readingAt depth) parser site memory cursor

theorem shows_readingAt_of_shared (rules : Rules τ Out) (refers : ρ → Option Nat)
    (depth : Nat) (name : ρ) :
    (rules.attemptShared refers depth name).Shows (rules.readingAt depth name) := by
  induction depth generalizing name with
  | zero =>
      intro site store cursor
      rfl
  | succ depth inductionHypothesis =>
      exact Parser.shows_reading_of_shared rules.label refers inductionHypothesis
        (rules.body name)

/-- In a store a run ends as the reading says too. -/
theorem outcome_runShared (rules : Rules τ Out) (refers : ρ → Option Nat) (depth : Nat)
    (parser : Parser τ Out α) (site : Site) (store : Store) (cursor : Cursor τ) :
    (rules.runShared refers depth parser site store cursor).map Reply.outcome =
      rules.reading depth parser cursor :=
  Parser.shows_reading_of_shared rules.label refers (rules.shows_readingAt_of_shared refers depth)
    parser site store cursor

theorem reading_of_run {rules : Rules τ Out} {depth : Nat} {parser : Parser τ Out α}
    {site : Site} {memory : Memory} {cursor : Cursor τ} {reply : Reply τ α}
    (replies : rules.run depth parser site memory cursor = some reply) :
    rules.reading depth parser cursor = some reply.outcome := by
  rw [← rules.outcome_run depth parser site memory cursor, replies]
  rfl

/-- A run never ends exactly where the reading has no outcome. -/
theorem run_eq_none_iff {rules : Rules τ Out} {depth : Nat} {parser : Parser τ Out α}
    {site : Site} {memory : Memory} {cursor : Cursor τ} :
    rules.run depth parser site memory cursor = none ↔
      rules.reading depth parser cursor = none := by
  rw [← rules.outcome_run depth parser site memory cursor, Option.map_eq_none_iff]

theorem run_of_reading {rules : Rules τ Out} {depth : Nat} {parser : Parser τ Out α}
    {cursor : Cursor τ} {outcome : Outcome τ α}
    (reads : rules.reading depth parser cursor = some outcome) (site : Site)
    (memory : Memory) :
    ∃ reply, rules.run depth parser site memory cursor = some reply ∧
      reply.outcome = outcome := by
  rw [← rules.outcome_run depth parser site memory cursor] at reads
  exact Option.map_eq_some_iff.mp reads

end Rules

end Descent
