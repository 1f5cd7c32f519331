import Descent.Run.Rules

/-!
# Readings

A reading is what is left of an attempt without its memory and its log: an outcome
for each cursor. Parsers have readings, defined below by the same recursion as their
attempts, and a run has the outcome of its reading whatever the parser value
remembers and whichever part of it is run. So whatever concerns outcomes alone can
be proved of readings, in which there is nothing else.
-/

namespace Descent

/-- An outcome at each cursor, or none where a run never ends. -/
def Reading (τ α : Type) := Cursor τ → Option (Outcome τ α)

namespace Reading

variable {τ α β γ : Type}

/-! ## Single steps -/

/-- Succeeds without reading. -/
def pure (value : α) : Reading τ α := fun cursor => some (.ok ⟨value, cursor⟩)

/-- Fails without reading. -/
def fail (cause : Cause) : Reading τ α := fun cursor => some (.error ⟨cursor, cause⟩)

/-- Reads one token that passes a test. -/
def satisfy [Token τ] (expected : String) (accepts : τ → Bool) : Reading τ τ :=
  fun cursor =>
    match cursor.peek with
    | none => some (.error (.unexpected cursor expected))
    | some (token, next) =>
        if accepts token then some (.ok ⟨token, next⟩)
        else some (.error (.unexpected cursor expected))

/-- Reads a run of tokens. -/
def tokens [Token τ] (run : List τ) : Reading τ (List τ) := fun cursor =>
  let window := cursor.window run.length
  if window == run then
    some (.ok ⟨run, cursor.advance window.length⟩)
  else
    let actual := if window.isEmpty then endOfInput else Token.describeAll window
    some (.error (.mismatch cursor (Token.describeAll run) actual))

/-- Succeeds at the end of input. -/
def eof [Token τ] : Reading τ Unit := fun cursor =>
  if cursor.atEnd then some (.ok ⟨(), cursor⟩)
  else some (.error (.unexpected cursor endOfInput))

/-! ## One reading after another -/

/-- Goes on from a success in a given way, and leaves a failure as it is. -/
def andThen (reading : Reading τ α) (next : Match τ α → Option (Outcome τ β)) :
    Reading τ β := fun cursor =>
  match reading cursor with
  | none => none
  | some (.error error) => some (.error error)
  | some (.ok found) => next found

/-- Changes the output. -/
def map (function : α → β) (reading : Reading τ α) : Reading τ β :=
  reading.andThen fun found => some (.ok ⟨function found.value, found.rest⟩)

/-- Goes on with a reading that is chosen by the output. -/
def flatMap (binder : α → Reading τ β) (reading : Reading τ α) : Reading τ β :=
  reading.andThen fun found => binder found.value found.rest

/-- Two readings in a row, with the outputs combined. -/
def sequence (combine : α → β → γ) (first : Reading τ α) (second : Reading τ β) :
    Reading τ γ :=
  first.flatMap fun output => second.map (combine output)

/-- A second reading at the same place if the first one fails. -/
def choice (first second : Reading τ α) : Reading τ α := fun cursor =>
  match first cursor with
  | none => none
  | some (.ok found) => some (.ok found)
  | some (.error error) =>
      match second cursor with
      | none => none
      | some (.ok found) => some (.ok found)
      | some (.error other) => some (.error (error.furthest other))

/-! ## Repetition -/

/-- Goes on for as long as there are matches. -/
def unlimited (reading : Reading τ α) (push : γ → α → γ) (items : γ)
    (cursor : Cursor τ) : Option (Outcome τ γ) :=
  match reading cursor with
  | none => none
  | some (.error error) =>
      if error.isRecoverable then some (.ok ⟨items, cursor⟩) else some (.error error)
  | some (.ok found) =>
      if found.rest == cursor then
        some (.error ⟨cursor, .noProgress⟩)
      else if found.rest.remainingLength < cursor.remainingLength then
        unlimited reading push (push items found.value) found.rest
      else
        none
termination_by cursor.remainingLength

/-- Goes on for as long as there are matches, up to a limit. -/
def limited (reading : Reading τ α) (push : γ → α → γ) :
    Nat → γ → Cursor τ → Option (Outcome τ γ)
  | 0, items, cursor => some (.ok ⟨items, cursor⟩)
  | limit + 1, items, cursor =>
      match reading cursor with
      | none => none
      | some (.error error) =>
          if error.isRecoverable then some (.ok ⟨items, cursor⟩) else some (.error error)
      | some (.ok found) => limited reading push limit (push items found.value) found.rest

/-- Takes a given number of matches and then goes on in a given way. -/
def required (reading : Reading τ α) (push : γ → α → γ)
    (onward : γ → Cursor τ → Option (Outcome τ γ)) :
    Nat → γ → Cursor τ → Option (Outcome τ γ)
  | 0, items, cursor => onward items cursor
  | count + 1, items, cursor =>
      reading.andThen
        (fun found => required reading push onward count (push items found.value) found.rest)
        cursor

/-- As many matches as there are. -/
def zeroOrMore (collector : Collector α γ) (reading : Reading τ α) : Reading τ γ :=
  reading.unlimited collector.push collector.start

/-- As many matches as there are, and at least one. -/
def oneOrMore (collector : Collector α γ) (reading : Reading τ α) : Reading τ γ :=
  fun cursor =>
    reading.andThen
      (fun found =>
        if found.rest == cursor then
          some (.error ⟨cursor, .noProgress⟩)
        else
          reading.unlimited collector.push (collector.push collector.start found.value)
            found.rest)
      cursor

/-- What a repetition does after the matches that it requires. -/
def extra (reading : Reading τ α) (push : γ → α → γ) :
    Option Nat → γ → Cursor τ → Option (Outcome τ γ)
  | none => reading.unlimited push
  | some limit => reading.limited push limit

/-- As many matches as there are, within bounds. -/
def count (bounds : Bounds) (collector : Collector α γ) (reading : Reading τ α) :
    Reading τ γ := fun cursor =>
  match bounds.quota with
  | .error cause => some (.error ⟨cursor, cause⟩)
  | .ok quota =>
      reading.required collector.push (reading.extra collector.push quota.extra)
        quota.required collector.start cursor

/-! ## What can have happened -/

variable {reading first second : Reading τ α} {push : γ → α → γ}

/-- A reading that goes on either failed at once, or succeeded and went on. -/
theorem andThen_eq_some {next : Match τ α → Option (Outcome τ β)} {cursor : Cursor τ}
    {outcome : Outcome τ β} (ends : reading.andThen next cursor = some outcome) :
    (∃ error, reading cursor = some (.error error) ∧ outcome = .error error) ∨
      ∃ found, reading cursor = some (.ok found) ∧ next found = some outcome := by
  simp only [andThen] at ends
  split at ends
  · cases ends
  · next error failed =>
      cases ends
      exact .inl ⟨error, failed, rfl⟩
  · next found succeeded => exact .inr ⟨found, succeeded, ends⟩

/-- A single token matches if it is there and is accepted. -/
theorem satisfy_eq_ok [Token τ] {expected : String} {accepts : τ → Bool} {cursor : Cursor τ}
    {found : Match τ τ} :
    satisfy expected accepts cursor = some (.ok found) ↔
      cursor.peek = some (found.value, found.rest) ∧ accepts found.value = true := by
  simp only [satisfy]
  constructor
  · intro succeeded
    split at succeeded
    · cases succeeded
    · next token next seen =>
        split at succeeded
        · next accepted =>
            cases succeeded
            exact ⟨seen, accepted⟩
        · cases succeeded
  · rintro ⟨seen, accepted⟩
    simp only [seen, accepted, if_true]

/-- A change of output leaves the cursor as it is. -/
theorem map_eq_ok {function : α → β} {cursor : Cursor τ} {found : Match τ β} :
    reading.map function cursor = some (.ok found) ↔
      ∃ before, reading cursor = some (.ok before) ∧
        found = ⟨function before.value, before.rest⟩ := by
  constructor
  · intro succeeded
    rcases andThen_eq_some succeeded with ⟨error, _, impossible⟩ | ⟨before, ended, changed⟩
    · cases impossible
    · cases changed
      exact ⟨before, ended, rfl⟩
  · rintro ⟨before, ended, rfl⟩
    simp only [map, andThen, ended]

theorem map_eq_error {function : α → β} {cursor : Cursor τ} {error : ParseError τ} :
    reading.map function cursor = some (.error error) ↔ reading cursor = some (.error error) := by
  constructor
  · intro failed
    rcases andThen_eq_some failed with ⟨error, ended, same⟩ | ⟨before, _, impossible⟩
    · cases same
      exact ended
    · cases impossible
  · intro failed
    simp only [map, andThen, failed]

/-- Two readings in a row succeed if both do, the second behind the first. -/
theorem sequence_eq_ok {combine : α → β → γ} {other : Reading τ β} {cursor : Cursor τ}
    {found : Match τ γ} :
    sequence combine reading other cursor = some (.ok found) ↔
      ∃ ahead behind, reading cursor = some (.ok ahead) ∧
        other ahead.rest = some (.ok behind) ∧
          found = ⟨combine ahead.value behind.value, behind.rest⟩ := by
  constructor
  · intro succeeded
    rcases andThen_eq_some succeeded with ⟨error, _, impossible⟩ | ⟨ahead, ended, more⟩
    · cases impossible
    · obtain ⟨behind, otherEnded, combined⟩ := map_eq_ok.mp more
      exact ⟨ahead, behind, ended, otherEnded, combined⟩
  · rintro ⟨ahead, behind, ended, otherEnded, rfl⟩
    simp only [sequence, flatMap, andThen, ended]
    exact map_eq_ok.mpr ⟨behind, otherEnded, rfl⟩

/-- Two readings in a row fail if the first does, or the second behind the first. -/
theorem sequence_eq_error {combine : α → β → γ} {other : Reading τ β} {cursor : Cursor τ}
    {error : ParseError τ} :
    sequence combine reading other cursor = some (.error error) ↔
      reading cursor = some (.error error) ∨
        ∃ ahead, reading cursor = some (.ok ahead) ∧
          other ahead.rest = some (.error error) := by
  constructor
  · intro failed
    rcases andThen_eq_some failed with ⟨error, ended, same⟩ | ⟨ahead, ended, more⟩
    · cases same
      exact .inl ended
    · exact .inr ⟨ahead, ended, map_eq_error.mp more⟩
  · rintro (ended | ⟨ahead, ended, otherEnded⟩)
    · simp only [sequence, flatMap, andThen, ended]
    · simp only [sequence, flatMap, andThen, ended]
      exact map_eq_error.mpr otherEnded

/-- A choice ends with the success of the first alternative, with the success of the
second after the first one failed, or with the failure that got further. -/
theorem choice_eq_some {cursor : Cursor τ} {outcome : Outcome τ α}
    (ends : choice first second cursor = some outcome) :
    (∃ found, first cursor = some (.ok found) ∧ outcome = .ok found) ∨
      ∃ error, first cursor = some (.error error) ∧
        ((∃ found, second cursor = some (.ok found) ∧ outcome = .ok found) ∨
          ∃ other, second cursor = some (.error other) ∧
            outcome = .error (error.furthest other)) := by
  simp only [choice] at ends
  split at ends
  · cases ends
  · next found succeeded =>
      cases ends
      exact .inl ⟨found, succeeded, rfl⟩
  · next error failed =>
      split at ends
      · cases ends
      · next found succeeded =>
          cases ends
          exact .inr ⟨error, failed, .inl ⟨found, succeeded, rfl⟩⟩
      · next other alsoFailed =>
          cases ends
          exact .inr ⟨error, failed, .inr ⟨other, alsoFailed, rfl⟩⟩

/-- A loop without a limit goes on with a match that leaves fewer tokens. -/
theorem unlimited_of_ok {items : γ} {cursor : Cursor τ} {found : Match τ α}
    (succeeded : reading cursor = some (.ok found)) (moved : (found.rest == cursor) = false)
    (shorter : found.rest.remainingLength < cursor.remainingLength) :
    reading.unlimited push items cursor =
      reading.unlimited push (push items found.value) found.rest := by
  rw [unlimited, succeeded]
  simp only [moved, shorter, Bool.false_eq_true, ↓reduceIte]

/-- A loop without a limit ends with a mismatch. -/
theorem unlimited_of_error {items : γ} {cursor : Cursor τ} {error : ParseError τ}
    (failed : reading cursor = some (.error error)) (recoverable : error.isRecoverable = true) :
    reading.unlimited push items cursor = some (.ok ⟨items, cursor⟩) := by
  rw [unlimited, failed]
  simp only [recoverable, ↓reduceIte]

/-- What holds of a loop without a limit at its start and after each match holds when
it ends: with a mismatch, with an error that no loop hides, or with a match of
nothing. -/
theorem unlimited_rule (holds : γ → Cursor τ → Prop) (ensured : Outcome τ γ → Prop)
    (mismatch : ∀ {items cursor error}, holds items cursor →
      reading cursor = some (.error error) → error.isRecoverable = true →
      ensured (.ok ⟨items, cursor⟩))
    (failure : ∀ {items cursor error}, holds items cursor →
      reading cursor = some (.error error) → error.isRecoverable = false →
      ensured (.error error))
    (standstill : ∀ {items cursor found}, holds items cursor →
      reading cursor = some (.ok found) → (found.rest == cursor) = true →
      ensured (.error ⟨cursor, .noProgress⟩))
    (step : ∀ {items cursor found}, holds items cursor →
      reading cursor = some (.ok found) → (found.rest == cursor) = false →
      holds (push items found.value) found.rest)
    {items : γ} {cursor : Cursor τ} {outcome : Outcome τ γ} (start : holds items cursor)
    (ends : reading.unlimited push items cursor = some outcome) : ensured outcome := by
  unfold unlimited at ends
  split at ends
  · cases ends
  · next error failed =>
      split at ends
      · next recoverable =>
          cases ends
          exact mismatch start failed recoverable
      · next final =>
          cases ends
          exact failure start failed (Bool.eq_false_iff.mpr final)
  · next found succeeded =>
      split at ends
      · next still =>
          cases ends
          exact standstill start succeeded still
      · next moved =>
          split at ends
          · have onward := step start succeeded (Bool.eq_false_iff.mpr moved)
            exact unlimited_rule holds ensured mismatch failure standstill step onward ends
          · cases ends
termination_by cursor.remainingLength

/-- What holds of a loop with a limit at its start and after each match holds when it
ends: with a mismatch, with an error that no loop hides, or at its limit. -/
theorem limited_rule (holds : γ → Cursor τ → Prop) (ensured : Outcome τ γ → Prop)
    (full : ∀ {items cursor}, holds items cursor → ensured (.ok ⟨items, cursor⟩))
    (mismatch : ∀ {items cursor error}, holds items cursor →
      reading cursor = some (.error error) → error.isRecoverable = true →
      ensured (.ok ⟨items, cursor⟩))
    (failure : ∀ {items cursor error}, holds items cursor →
      reading cursor = some (.error error) → error.isRecoverable = false →
      ensured (.error error))
    (step : ∀ {items cursor found}, holds items cursor →
      reading cursor = some (.ok found) → holds (push items found.value) found.rest)
    {limit : Nat} {items : γ} {cursor : Cursor τ} {outcome : Outcome τ γ}
    (start : holds items cursor)
    (ends : reading.limited push limit items cursor = some outcome) : ensured outcome := by
  induction limit generalizing items cursor with
  | zero =>
      cases ends
      exact full start
  | succ limit inductionHypothesis =>
      simp only [limited] at ends
      split at ends
      · cases ends
      · next error failed =>
          split at ends
          · next recoverable =>
              cases ends
              exact mismatch start failed recoverable
          · next final =>
              cases ends
              exact failure start failed (Bool.eq_false_iff.mpr final)
      · next found succeeded => exact inductionHypothesis (step start succeeded) ends

/-- What holds of a loop at its start and after each match that it requires holds when
it fails, and is there to go on with after the last of them. -/
theorem required_rule (holds : γ → Cursor τ → Prop) (ensured : Outcome τ γ → Prop)
    {onward : γ → Cursor τ → Option (Outcome τ γ)}
    (failure : ∀ {items cursor error}, holds items cursor →
      reading cursor = some (.error error) → ensured (.error error))
    (step : ∀ {items cursor found}, holds items cursor →
      reading cursor = some (.ok found) → holds (push items found.value) found.rest)
    (last : ∀ {items cursor outcome}, holds items cursor →
      onward items cursor = some outcome → ensured outcome)
    {count : Nat} {items : γ} {cursor : Cursor τ} {outcome : Outcome τ γ}
    (start : holds items cursor)
    (ends : reading.required push onward count items cursor = some outcome) :
    ensured outcome := by
  induction count generalizing items cursor with
  | zero => exact last start ends
  | succ count inductionHypothesis =>
      rcases andThen_eq_some ends with ⟨error, failed, rfl⟩ | ⟨found, succeeded, more⟩
      · exact failure start failed
      · exact inductionHypothesis (step start succeeded) more

end Reading

/-! ## The readings of parsers -/

/-- The reading of a parser, given those of its rules. -/
def Parser.reading {τ ρ : Type} [Token τ] {Out : ρ → Type}
    (enter : (name : ρ) → Reading τ (Out name)) :
    {α : Type} → Parser τ Out α → Reading τ α
  | _, .satisfy _ expected accepts => .satisfy expected accepts
  | _, .tokens run => .tokens run
  | _, .eof => .eof
  | _, .pure value => .pure value
  | _, .fail expected actual => .fail (.mismatch expected actual)
  | _, .map _ function parser => .map function (reading enter parser)
  | _, .flatMap _ binder parser =>
      .flatMap (fun output => reading enter (binder output)) (reading enter parser)
  | _, .sequence _ combine first second =>
      .sequence combine (reading enter first) (reading enter second)
  | _, .twice parser => .sequence Prod.mk (reading enter parser) (reading enter parser)
  | _, .choice first second => .choice (reading enter first) (reading enter second)
  | _, .zeroOrMore collector parser => .zeroOrMore collector (reading enter parser)
  | _, .oneOrMore collector parser => .oneOrMore collector (reading enter parser)
  | _, .count bounds collector parser => .count bounds collector (reading enter parser)
  | _, .delayed _ parser => reading enter parser
  | _, .rule name => enter name
  | _, .tap _ parser => reading enter parser

namespace Rules

variable {τ ρ : Type} [Token τ] {Out : ρ → Type}

/-- The reading of a rule that may be nested to a given depth. -/
def readingAt (rules : Rules τ Out) : Nat → (name : ρ) → Reading τ (Out name)
  | 0, _ => fun _ => none
  | depth + 1, name => (rules.body name).reading (readingAt rules depth)

/-- The reading of a parser with these rules, nested to a given depth. -/
def reading {α : Type} (rules : Rules τ Out) (depth : Nat) (parser : Parser τ Out α) :
    Reading τ α :=
  parser.reading (rules.readingAt depth)

section Derived

variable {α β : Type} (rules : Rules τ Out) (depth : Nat)

theorem reading_map (note : Option String) (function : α → β) (parser : Parser τ Out α) :
    rules.reading depth (.map note function parser) =
      .map function (rules.reading depth parser) := rfl

theorem reading_both (first : Parser τ Out α) (second : Parser τ Out β) :
    rules.reading depth (.both first second) =
      .sequence Prod.mk (rules.reading depth first) (rules.reading depth second) := rfl

theorem reading_discardLeft (first : Parser τ Out α) (second : Parser τ Out β) :
    rules.reading depth (.discardLeft first second) =
      .sequence (fun _ output => output) (rules.reading depth first)
        (rules.reading depth second) := rfl

theorem reading_discardRight (first : Parser τ Out α) (second : Parser τ Out β) :
    rules.reading depth (.discardRight first second) =
      .sequence (fun output _ => output) (rules.reading depth first)
        (rules.reading depth second) := rfl

theorem reading_complete (parser : Parser τ Out α) :
    rules.reading depth parser.complete =
      .sequence (fun output _ => output) (rules.reading depth parser) .eof := rfl

theorem reading_many (parser : Parser τ Out α) :
    rules.reading depth (.many parser) =
      .map Array.toList (.zeroOrMore .array (rules.reading depth parser)) := rfl

end Derived

end Rules

end Descent
