import Descent.Proofs.Outcome

/-!
# Places of outcomes

Every outcome has a place: behind the match if it is a success, where it was noticed
if it is a failure. Whatever a parser is made of, a run that ends has its place in
the source that it started in, not before its start and not behind the end.
-/

namespace Descent

/-- Where an outcome leaves off. -/
def Outcome.place {τ α : Type} : Outcome τ α → Cursor τ
  | .ok found => found.rest
  | .error error => error.remainder

namespace Cursor

variable {τ : Type}

/-- A place in the same source, at the cursor or behind it. -/
structure LeadsTo (cursor place : Cursor τ) : Prop where
  source : place.source = cursor.source
  position : cursor.position ≤ place.position

namespace LeadsTo

variable {first second third : Cursor τ}

theorem refl (cursor : Cursor τ) : cursor.LeadsTo cursor := ⟨rfl, Nat.le_refl _⟩

theorem trans (near : first.LeadsTo second) (far : second.LeadsTo third) :
    first.LeadsTo third :=
  ⟨far.source.trans near.source, Nat.le_trans near.position far.position⟩

theorem length_eq (leads : first.LeadsTo second) : second.length = first.length := by
  rw [length, length, leads.source]

theorem remainingLength_le (leads : first.LeadsTo second) :
    second.remainingLength ≤ first.remainingLength := by
  have position := leads.position
  rw [remainingLength, remainingLength, leads.length_eq]
  omega

/-- Of two cursors on one source, only the same one is equal. -/
theorem beq_iff (leads : first.LeadsTo second) :
    (second == first) = true ↔ second = first :=
  beq_iff_eq_of_source leads.source

/-- A place that is not the cursor itself has fewer tokens left. -/
theorem remainingLength_lt (leads : first.LeadsTo second) (moved : second ≠ first) :
    second.remainingLength < first.remainingLength := by
  have apart : second.position ≠ first.position := by
    intro equal
    exact moved (Cursor.ext leads.source equal)
  have position := leads.position
  have within := second.position_le_length
  have length := leads.length_eq
  rw [remainingLength, remainingLength]
  omega

end LeadsTo

theorem leadsTo_of_peek {cursor next : Cursor τ} {token : τ}
    (seen : cursor.peek = some (token, next)) : cursor.LeadsTo next := by
  have position := position_of_peek seen
  exact ⟨source_of_peek seen, by omega⟩

theorem leadsTo_advance (cursor : Cursor τ) (steps : Nat) :
    cursor.LeadsTo (cursor.advance steps) := by
  have within := cursor.position_le_length
  exact ⟨rfl, by rw [position_advance]; omega⟩

end Cursor

@[simp] theorem ParseError.remainder_unexpected {τ : Type} [Token τ] (cursor : Cursor τ)
    (expected : String) : (ParseError.unexpected cursor expected).remainder = cursor := by
  simp only [ParseError.unexpected]
  split <;> rfl

/-- The failure that is picked is one of the two. -/
theorem ParseError.furthest_eq_or {τ : Type} (first second : ParseError τ) :
    first.furthest second = first ∨ first.furthest second = second := by
  simp only [ParseError.furthest]
  split
  · exact .inr rfl
  · exact .inl rfl

namespace Reading

variable {τ α β γ : Type}

/-- No outcome lies before the start or in another source. -/
def Forward (reading : Reading τ α) : Prop :=
  ∀ cursor outcome, reading cursor = some outcome → cursor.LeadsTo outcome.place

/-- A match that is not empty leaves fewer tokens. -/
theorem Forward.remainingLength_lt {reading : Reading τ α} (forward : reading.Forward)
    {cursor : Cursor τ} {found : Match τ α} (succeeded : reading cursor = some (.ok found))
    (moved : (found.rest == cursor) = false) :
    found.rest.remainingLength < cursor.remainingLength := by
  have leads : cursor.LeadsTo found.rest := forward _ _ succeeded
  apply leads.remainingLength_lt
  intro still
  rw [leads.beq_iff.mpr still] at moved
  cases moved

/-- The last case of a loop without a limit is never reached: behind a match that is not
empty the loop goes on. -/
theorem Forward.unlimited_eq {reading : Reading τ α} (forward : reading.Forward)
    (push : γ → α → γ) (items : γ) (cursor : Cursor τ) :
    reading.unlimited push items cursor =
      match reading cursor with
      | none => none
      | some (.error error) =>
          if error.isRecoverable then some (.ok ⟨items, cursor⟩) else some (.error error)
      | some (.ok found) =>
          if found.rest == cursor then some (.error ⟨cursor, .noProgress⟩)
          else reading.unlimited push (push items found.value) found.rest := by
  rw [unlimited]
  cases reads : reading cursor with
  | none => rfl
  | some outcome =>
      cases outcome with
      | error error => rfl
      | ok found =>
          cases still : found.rest == cursor with
          | true => simp only [still, ↓reduceIte]
          | false =>
              have shorter := forward.remainingLength_lt reads still
              simp only [still, shorter, Bool.false_eq_true, ↓reduceIte]

/-- Nor is it in the loop of an attempt that ends as the reading says. -/
theorem Forward.shortens {μ : Type} {attempt : Attempt τ α μ} {reading : Reading τ α}
    (forward : reading.Forward) (shown : attempt.Shows reading) : attempt.Shortens := by
  intro site memory cursor found after log replies moved
  have reads : reading cursor = some (.ok found) := by
    rw [← shown site memory cursor, replies]
    rfl
  exact forward.remainingLength_lt reads moved

namespace Forward

/-! ## Single steps -/

theorem pure (value : α) : (Reading.pure (τ := τ) value).Forward := by
  intro cursor outcome ends
  cases ends
  exact .refl cursor

theorem fail (cause : Cause) : (Reading.fail (τ := τ) (α := α) cause).Forward := by
  intro cursor outcome ends
  cases ends
  exact .refl cursor

theorem satisfy [Token τ] (expected : String) (accepts : τ → Bool) :
    (Reading.satisfy expected accepts).Forward := by
  intro cursor outcome ends
  have refused : cursor.LeadsTo (ParseError.unexpected cursor expected).remainder := by
    rw [ParseError.remainder_unexpected]
    exact .refl cursor
  simp only [Reading.satisfy] at ends
  split at ends
  · cases ends
    exact refused
  · next token next seen =>
      split at ends
      · cases ends
        exact Cursor.leadsTo_of_peek seen
      · cases ends
        exact refused

theorem tokens [Token τ] (run : List τ) : (Reading.tokens run).Forward := by
  intro cursor outcome ends
  simp only [Reading.tokens] at ends
  split at ends
  · cases ends
    exact cursor.leadsTo_advance _
  · cases ends
    exact .refl cursor

theorem eof [Token τ] : (Reading.eof (τ := τ)).Forward := by
  intro cursor outcome ends
  simp only [Reading.eof] at ends
  split at ends
  · cases ends
    exact .refl cursor
  · cases ends
    show cursor.LeadsTo (ParseError.unexpected cursor endOfInput).remainder
    rw [ParseError.remainder_unexpected]
    exact .refl cursor

/-! ## One reading after another -/

variable {reading first second : Reading τ α}

theorem flatMap {choose : α → Reading τ β} (forward : reading.Forward)
    (chosen : ∀ output, (choose output).Forward) : (reading.flatMap choose).Forward := by
  intro cursor outcome ends
  rcases andThen_eq_some ends with ⟨error, failed, rfl⟩ | ⟨found, succeeded, more⟩
  · exact forward _ _ failed
  · exact (forward _ _ succeeded).trans (chosen found.value _ _ more)

theorem map (forward : reading.Forward) (function : α → β) :
    (reading.map function).Forward := by
  intro cursor outcome ends
  rcases andThen_eq_some ends with ⟨error, failed, rfl⟩ | ⟨found, succeeded, more⟩
  · exact forward _ _ failed
  · cases more
    exact forward _ _ succeeded

theorem sequence {other : Reading τ β} (forward : reading.Forward)
    (otherForward : other.Forward) (combine : α → β → γ) :
    (Reading.sequence combine reading other).Forward :=
  forward.flatMap fun output => otherForward.map (combine output)

theorem choice (firstForward : first.Forward) (secondForward : second.Forward) :
    (Reading.choice first second).Forward := by
  intro cursor outcome ends
  rcases choice_eq_some ends with ⟨found, succeeded, rfl⟩ | ⟨error, failed, others⟩
  · exact firstForward _ _ succeeded
  rcases others with ⟨found, succeeded, rfl⟩ | ⟨other, alsoFailed, rfl⟩
  · exact secondForward _ _ succeeded
  · show cursor.LeadsTo (error.furthest other).remainder
    rcases error.furthest_eq_or other with picked | picked
    · rw [picked]
      exact firstForward _ _ failed
    · rw [picked]
      exact secondForward _ _ alsoFailed

/-! ## Repetition

The invariant of all three loops is that the start leads to where the loop stands. -/

theorem unlimited (forward : reading.Forward) {push : γ → α → γ} {items : γ}
    {start cursor : Cursor τ} {outcome : Outcome τ γ} (leads : start.LeadsTo cursor)
    (ends : reading.unlimited push items cursor = some outcome) :
    start.LeadsTo outcome.place := by
  refine unlimited_rule (fun _ cursor => start.LeadsTo cursor)
    (fun outcome => start.LeadsTo outcome.place)
    ?mismatch ?failure ?standstill ?step leads ends
  case mismatch =>
    intro items cursor error leads failed recoverable
    exact leads
  case failure =>
    intro items cursor error leads failed final
    exact leads.trans (forward _ _ failed)
  case standstill =>
    intro items cursor found leads succeeded still
    exact leads
  case step =>
    intro items cursor found leads succeeded moved
    exact leads.trans (forward _ _ succeeded)

theorem limited (forward : reading.Forward) {push : γ → α → γ} {limit : Nat} {items : γ}
    {start cursor : Cursor τ} {outcome : Outcome τ γ} (leads : start.LeadsTo cursor)
    (ends : reading.limited push limit items cursor = some outcome) :
    start.LeadsTo outcome.place := by
  refine limited_rule (fun _ cursor => start.LeadsTo cursor)
    (fun outcome => start.LeadsTo outcome.place)
    ?full ?mismatch ?failure ?step leads ends
  case full =>
    intro items cursor leads
    exact leads
  case mismatch =>
    intro items cursor error leads failed recoverable
    exact leads
  case failure =>
    intro items cursor error leads failed final
    exact leads.trans (forward _ _ failed)
  case step =>
    intro items cursor found leads succeeded
    exact leads.trans (forward _ _ succeeded)

theorem extra (forward : reading.Forward) {push : γ → α → γ} {more : Option Nat}
    {items : γ} {start cursor : Cursor τ} {outcome : Outcome τ γ}
    (leads : start.LeadsTo cursor)
    (ends : reading.extra push more items cursor = some outcome) :
    start.LeadsTo outcome.place := by
  cases more with
  | none => exact forward.unlimited leads ends
  | some limit => exact forward.limited leads ends

theorem required (forward : reading.Forward) {push : γ → α → γ} {more : Option Nat}
    {count : Nat} {items : γ} {start cursor : Cursor τ} {outcome : Outcome τ γ}
    (leads : start.LeadsTo cursor)
    (ends : reading.required push (reading.extra push more) count items cursor =
      some outcome) : start.LeadsTo outcome.place := by
  refine required_rule (fun _ place => start.LeadsTo place)
    (fun outcome => start.LeadsTo outcome.place) ?failure ?step ?last leads ends
  case failure =>
    intro items place error leads failed
    exact leads.trans (forward _ _ failed)
  case step =>
    intro items place found leads succeeded
    exact leads.trans (forward _ _ succeeded)
  case last =>
    intro items place outcome leads more
    exact forward.extra leads more

theorem zeroOrMore (forward : reading.Forward) (collector : Collector α γ) :
    (Reading.zeroOrMore collector reading).Forward := by
  intro cursor outcome ends
  exact forward.unlimited (.refl cursor) ends

theorem oneOrMore (forward : reading.Forward) (collector : Collector α γ) :
    (Reading.oneOrMore collector reading).Forward := by
  intro cursor outcome ends
  rcases andThen_eq_some ends with ⟨error, failed, rfl⟩ | ⟨found, succeeded, more⟩
  · exact forward _ _ failed
  · split at more
    · cases more
      exact .refl cursor
    · exact forward.unlimited (forward _ _ succeeded) more

theorem count (forward : reading.Forward) (bounds : Bounds) (collector : Collector α γ) :
    (Reading.count bounds collector reading).Forward := by
  intro cursor outcome ends
  simp only [Reading.count] at ends
  split at ends
  · cases ends
    exact .refl cursor
  · exact forward.required (.refl cursor) ends

end Forward

end Reading

/-! ## Parsers -/

variable {τ ρ : Type} [Token τ] {Out : ρ → Type} {α : Type}

theorem Parser.forward_reading {enter : (name : ρ) → Reading τ (Out name)}
    (forward : ∀ name, (enter name).Forward) (parser : Parser τ Out α) :
    (parser.reading enter).Forward := by
  induction parser with
  | satisfy note expected accepts => exact .satisfy expected accepts
  | tokens run => exact .tokens run
  | eof => exact .eof
  | pure value => exact .pure value
  | fail expected actual => exact .fail _
  | map note function parser ih => exact .map ih function
  | flatMap note binder parser binderIH parserIH => exact .flatMap parserIH binderIH
  | sequence note combine first second firstIH secondIH =>
      exact .sequence firstIH secondIH combine
  | twice parser ih => exact .sequence ih ih Prod.mk
  | choice first second firstIH secondIH => exact .choice firstIH secondIH
  | zeroOrMore collector parser ih => exact .zeroOrMore ih collector
  | oneOrMore collector parser ih => exact .oneOrMore ih collector
  | count bounds collector parser ih => exact .count ih bounds collector
  | delayed name parser ih => exact ih
  | rule name => exact forward name
  | tap name parser ih => exact ih

namespace Rules

theorem forward_readingAt (rules : Rules τ Out) (depth : Nat) (name : ρ) :
    (rules.readingAt depth name).Forward := by
  induction depth generalizing name with
  | zero =>
      intro cursor outcome ends
      cases ends
  | succ depth inductionHypothesis =>
      exact Parser.forward_reading inductionHypothesis (rules.body name)

theorem forward_reading (rules : Rules τ Out) (depth : Nat) (parser : Parser τ Out α) :
    (rules.reading depth parser).Forward :=
  Parser.forward_reading (rules.forward_readingAt depth) parser

/-- No loop over a parser gets to its last case. -/
theorem shortens_run (rules : Rules τ Out) (depth : Nat) (parser : Parser τ Out α) :
    (rules.run depth parser).Shortens :=
  (rules.forward_reading depth parser).shortens (rules.outcome_run depth parser)

theorem shortens_runShared (rules : Rules τ Out) (refers : ρ → Option Nat) (depth : Nat)
    (parser : Parser τ Out α) : (rules.runShared refers depth parser).Shortens :=
  (rules.forward_reading depth parser).shortens (rules.outcome_runShared refers depth parser)

/-- A run that ends has read on in the source that it started in. It leaves off, or
has noticed its failure, at its start or behind it, with as many tokens before that
place and after it as the source has in all. -/
theorem place_of_run (rules : Rules τ Out) {depth : Nat} {parser : Parser τ Out α}
    {site : Site} {memory : Memory} {cursor : Cursor τ} {reply : Reply τ α}
    (replies : rules.run depth parser site memory cursor = some reply) :
    (∀ found, reply.outcome = .ok found →
      found.rest.source = cursor.source ∧ cursor.position ≤ found.rest.position ∧
        found.rest.position ≤ cursor.length ∧
        found.rest.position + found.rest.remainingLength = cursor.length) ∧
    (∀ error, reply.outcome = .error error →
      error.remainder.source = cursor.source ∧ cursor.position ≤ error.position ∧
        error.position ≤ cursor.length ∧
        error.position + error.remainingLength = cursor.length) := by
  have leads : cursor.LeadsTo reply.outcome.place :=
    rules.forward_reading depth parser _ _ (reading_of_run replies)
  have within : reply.outcome.place.position ≤ cursor.length := by
    rw [← leads.length_eq]
    exact reply.outcome.place.position_le_length
  have total : reply.outcome.place.position + reply.outcome.place.remainingLength =
      cursor.length := by
    rw [← leads.length_eq]
    exact reply.outcome.place.position_add_remainingLength
  constructor
  · intro found succeeded
    rw [succeeded] at leads within total
    exact ⟨leads.source, leads.position, within, total⟩
  · intro error failed
    rw [failed] at leads within total
    exact ⟨leads.source, leads.position, within, total⟩

/-- A dot in any number of brackets, and how many there are. -/
def brackets : Rules Char (fun _ : Unit => Nat) where
  label _ := "brackets"
  body _ :=
    .choice
      (.map none Nat.succ (.discardRight (.discardLeft (.token '[') (.rule ())) (.token ']')))
      (.map none (fun _ => 0) (.token '.'))

/-- The inner bracket is not closed, which is noticed where it should be. -/
theorem place_of_run_brackets :
    ∃ reply, brackets.run 3 (.rule ()) [] .blank (.start ⟨0, #['[', '[', '.', '.']⟩) =
        some reply ∧ reply.outcome.place.position = 3 ∧
      (∀ found, reply.outcome = .ok found →
        found.rest.source = ⟨0, #['[', '[', '.', '.']⟩ ∧ 0 ≤ found.rest.position ∧
          found.rest.position ≤ 4 ∧ found.rest.position + found.rest.remainingLength = 4) ∧
      (∀ error, reply.outcome = .error error →
        error.remainder.source = ⟨0, #['[', '[', '.', '.']⟩ ∧ 0 ≤ error.position ∧
          error.position ≤ 4 ∧ error.position + error.remainingLength = 4) := by
  have place : (brackets.run 3 (.rule ()) [] .blank
      (.start ⟨0, #['[', '[', '.', '.']⟩)).map
        (fun reply => reply.outcome.place.position) = some 3 := by decide +kernel
  obtain ⟨reply, replies, position⟩ := Option.map_eq_some_iff.mp place
  exact ⟨reply, replies, position, brackets.place_of_run replies⟩

end Rules

end Descent
