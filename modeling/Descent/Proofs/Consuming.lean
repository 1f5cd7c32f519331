import Descent.Proofs.Failures
import Descent.Proofs.Quota
import Descent.Proofs.Tokens

/-!
# Parsers that never match nothing

Not every failure says something about the input. A loop without a limit gives up at a
match of nothing, and a repetition with bounds that make no sense gives up everywhere;
then the grammar is at fault. That this cannot happen shows in the form of a grammar. A
parser is consuming if its form promises that no match of it is empty. What the form
cannot tell of rules is claimed by a marking, which the bodies of the marked rules have to
bear out. A parser is well-formed if it repeats without a limit only what is consuming, and
within bounds that make sense.

The promises are kept by two inductions, one over parsers and, around it, one over the
depth of rules: first matches of consuming parsers are shown to leave fewer tokens, and
then failures of well-formed parsers to be mismatches, because no loop stands still.
-/

namespace Descent

namespace Reading

variable {τ α β γ : Type}

/-! ## Matches that leave fewer tokens -/

/-- Every match leaves fewer tokens. -/
def Consumes (reading : Reading τ α) : Prop :=
  ∀ cursor found, reading cursor = some (.ok found) →
    found.rest.remainingLength < cursor.remainingLength

/-- Loops need not watch a reading that consumes for matches of nothing. -/
theorem Consumes.beq_eq_false {reading : Reading τ α} (consumes : reading.Consumes)
    (forward : reading.Forward) {cursor : Cursor τ} {found : Match τ α}
    (succeeded : reading cursor = some (.ok found)) : (found.rest == cursor) = false := by
  rw [Bool.eq_false_iff]
  intro still
  have leads : cursor.LeadsTo found.rest := forward _ _ succeeded
  have shorter := consumes _ _ succeeded
  rw [leads.beq_iff.mp still] at shorter
  exact Nat.lt_irrefl _ shorter

namespace Consumes

theorem satisfy [Token τ] (expected : String) (accepts : τ → Bool) :
    (Reading.satisfy expected accepts).Consumes := by
  intro cursor found succeeded
  have passes := Cursor.passes_of_peek (satisfy_eq_ok.mp succeeded).1
  exact passes.remainingLength_lt (List.cons_ne_nil _ _)

/-- Where a run of tokens stands, there are as many tokens. -/
theorem tokens [Token τ] {run : List τ} (nonempty : run ≠ []) :
    (Reading.tokens run).Consumes := by
  intro cursor found succeeded
  simp only [Reading.tokens] at succeeded
  split at succeeded
  · next matched =>
      cases succeeded
      have window : 0 < (cursor.window run.length).length := by
        cases seen : cursor.window run.length with
        | cons first rest => exact Nat.zero_lt_succ _
        | nil =>
            rw [seen] at matched
            cases run with
            | nil => exact absurd rfl nonempty
            | cons first rest => cases matched
      have within := cursor.length_window run.length
      have total := cursor.position_add_remainingLength
      have shorter := (cursor.advance
        (cursor.window run.length).length).position_add_remainingLength
      rw [Cursor.position_advance, Cursor.length_advance] at shorter
      show (cursor.advance _).remainingLength < _
      omega
  · cases succeeded

theorem fail (cause : Cause) : (Reading.fail (τ := τ) (α := α) cause).Consumes := by
  intro cursor found succeeded
  cases succeeded

variable {reading first second : Reading τ α}

theorem map (consumes : reading.Consumes) (function : α → β) :
    (reading.map function).Consumes := by
  intro cursor found succeeded
  obtain ⟨before, read, rfl⟩ := map_eq_ok.mp succeeded
  exact consumes cursor before read

theorem flatMap {choose : α → Reading τ β} (consumes : reading.Consumes)
    (forward : ∀ output, (choose output).Forward) : (reading.flatMap choose).Consumes := by
  intro cursor found succeeded
  rcases andThen_eq_some succeeded with ⟨error, _, impossible⟩ | ⟨before, read, more⟩
  · cases impossible
  · have leads : before.rest.LeadsTo found.rest := forward before.value _ _ more
    exact Nat.lt_of_le_of_lt leads.remainingLength_le (consumes cursor before read)

/-- Of two readings in a row one has to consume, whichever it is. -/
theorem sequence {other : Reading τ β} (forward : reading.Forward)
    (otherForward : other.Forward) (consumes : reading.Consumes ∨ other.Consumes)
    (combine : α → β → γ) : (Reading.sequence combine reading other).Consumes := by
  intro cursor found succeeded
  obtain ⟨ahead, behind, aheadRead, behindRead, rfl⟩ := sequence_eq_ok.mp succeeded
  have aheadLeads : cursor.LeadsTo ahead.rest := forward _ _ aheadRead
  have behindLeads : ahead.rest.LeadsTo behind.rest := otherForward _ _ behindRead
  cases consumes with
  | inl consumes =>
      exact Nat.lt_of_le_of_lt behindLeads.remainingLength_le (consumes _ _ aheadRead)
  | inr consumes =>
      exact Nat.lt_of_lt_of_le (consumes _ _ behindRead) aheadLeads.remainingLength_le

theorem choice (consumes : first.Consumes) (otherConsumes : second.Consumes) :
    (Reading.choice first second).Consumes := by
  intro cursor found succeeded
  rcases choice_eq_some succeeded with ⟨_, read, same⟩ | ⟨error, _, others⟩
  · cases same
    exact consumes cursor found read
  rcases others with ⟨_, read, same⟩ | ⟨other, _, impossible⟩
  · cases same
    exact otherConsumes cursor found read
  · cases impossible

/-- Whatever is repeated, a first match of nothing is not taken for a match. -/
theorem oneOrMore (forward : reading.Forward) (collector : Collector α γ) :
    (Reading.oneOrMore collector reading).Consumes := by
  intro cursor found succeeded
  rcases andThen_eq_some succeeded with ⟨error, _, impossible⟩ | ⟨before, read, more⟩
  · cases impossible
  · split at more
    · cases more
    · next moved =>
        have shorter := forward.remainingLength_lt read (Bool.eq_false_iff.mpr moved)
        have onward : before.rest.LeadsTo found.rest := forward.unlimited (.refl _) more
        exact Nat.lt_of_le_of_lt onward.remainingLength_le shorter

/-- If matches are required, the first of them leaves fewer tokens already. -/
theorem count (consumes : reading.Consumes) (forward : reading.Forward) {bounds : Bounds}
    (least : 0 < bounds.lower) (collector : Collector α γ) :
    (Reading.count bounds collector reading).Consumes := by
  intro cursor found succeeded
  simp only [Reading.count] at succeeded
  split at succeeded
  · cases succeeded
  · next quota valid =>
      -- The loop starts with a match, because it requires one more than some number.
      obtain ⟨more, required⟩ :=
        Nat.exists_eq_succ_of_ne_zero (Nat.ne_of_gt (Bounds.required_pos valid least))
      rw [required] at succeeded
      rcases andThen_eq_some succeeded with ⟨error, _, impossible⟩ | ⟨before, read, onward⟩
      · cases impossible
      · have leads : before.rest.LeadsTo found.rest :=
          forward.required (.refl before.rest) onward
        exact Nat.lt_of_le_of_lt leads.remainingLength_le (consumes cursor before read)

end Consumes

/-! ## Failures that are mismatches -/

/-- Every failure is a mismatch. -/
def Mild (reading : Reading τ α) : Prop :=
  ∀ cursor error, reading cursor = some (.error error) → error.isRecoverable = true

namespace Mild

theorem satisfy [Token τ] (expected : String) (accepts : τ → Bool) :
    (Reading.satisfy expected accepts).Mild := by
  intro cursor error failed
  rw [(satisfy_eq_error.mp failed).2]
  exact isRecoverable_unexpected cursor expected

theorem tokens [Token τ] (run : List τ) : (Reading.tokens run).Mild := by
  intro cursor error failed
  simp only [Reading.tokens] at failed
  split at failed
  · cases failed
  · cases failed
    rfl

theorem eof [Token τ] : (Reading.eof (τ := τ)).Mild := by
  intro cursor error failed
  exact isRecoverable_eof failed

theorem pure (value : α) : (Reading.pure (τ := τ) value).Mild := by
  intro cursor error failed
  cases failed

theorem fail (expected actual : String) :
    (Reading.fail (τ := τ) (α := α) (.mismatch expected actual)).Mild := by
  intro cursor error failed
  cases failed
  rfl

variable {reading first second : Reading τ α}

theorem map (mild : reading.Mild) (function : α → β) : (reading.map function).Mild :=
  FailsAs.map mild function

theorem flatMap {choose : α → Reading τ β} (mild : reading.Mild)
    (chosen : ∀ output, (choose output).Mild) : (reading.flatMap choose).Mild :=
  FailsAs.flatMap mild chosen

theorem sequence {other : Reading τ β} (mild : reading.Mild) (otherMild : other.Mild)
    (combine : α → β → γ) : (Reading.sequence combine reading other).Mild :=
  FailsAs.sequence mild otherMild combine

theorem choice (mild : first.Mild) (otherMild : second.Mild) :
    (Reading.choice first second).Mild :=
  FailsAs.choice mild otherMild

/-! No loop hides an error in the grammar, but there is none to hide: a mismatch ends the
loop well, and it does not stand still. -/

theorem unlimited (mild : reading.Mild) (forward : reading.Forward)
    (consumes : reading.Consumes) {push : γ → α → γ} {items : γ} {cursor : Cursor τ}
    {outcome : Outcome τ γ} (ends : reading.unlimited push items cursor = some outcome) :
    ∃ found, outcome = .ok found := by
  refine unlimited_rule (fun _ _ => True) (fun outcome => ∃ found, outcome = .ok found)
    ?mismatch ?failure ?standstill ?step trivial ends
  case mismatch =>
    intro items cursor error _ failed recoverable
    exact ⟨_, rfl⟩
  case failure =>
    intro items cursor error _ failed final
    rw [mild cursor error failed] at final
    cases final
  case standstill =>
    intro items cursor found _ succeeded still
    rw [consumes.beq_eq_false forward succeeded] at still
    cases still
  case step =>
    intro items cursor found _ succeeded moved
    trivial

theorem limited (mild : reading.Mild) {push : γ → α → γ} {limit : Nat} {items : γ}
    {cursor : Cursor τ} {outcome : Outcome τ γ}
    (ends : reading.limited push limit items cursor = some outcome) :
    ∃ found, outcome = .ok found := by
  refine limited_rule (fun _ _ => True) (fun outcome => ∃ found, outcome = .ok found)
    ?full ?mismatch ?failure ?step trivial ends
  case full =>
    intro items cursor _
    exact ⟨_, rfl⟩
  case mismatch =>
    intro items cursor error _ failed recoverable
    exact ⟨_, rfl⟩
  case failure =>
    intro items cursor error _ failed final
    rw [mild cursor error failed] at final
    cases final
  case step =>
    intro items cursor found _ succeeded
    trivial

theorem extra (mild : reading.Mild) (forward : reading.Forward) {more : Option Nat}
    (consumes : more = none → reading.Consumes) {push : γ → α → γ} {items : γ}
    {cursor : Cursor τ} {outcome : Outcome τ γ}
    (ends : reading.extra push more items cursor = some outcome) :
    ∃ found, outcome = .ok found := by
  cases more with
  | none => exact mild.unlimited forward (consumes rfl) ends
  | some limit => exact mild.limited ends

theorem zeroOrMore (mild : reading.Mild) (forward : reading.Forward)
    (consumes : reading.Consumes) (collector : Collector α γ) :
    (Reading.zeroOrMore collector reading).Mild := by
  intro cursor error failed
  obtain ⟨_, impossible⟩ := mild.unlimited forward consumes failed
  cases impossible

theorem oneOrMore (mild : reading.Mild) (forward : reading.Forward)
    (consumes : reading.Consumes) (collector : Collector α γ) :
    (Reading.oneOrMore collector reading).Mild := by
  intro cursor error failed
  rcases andThen_eq_some failed with ⟨error, ended, same⟩ | ⟨found, succeeded, more⟩
  · cases same
    exact mild cursor error ended
  · rw [consumes.beq_eq_false forward succeeded] at more
    obtain ⟨_, impossible⟩ := mild.unlimited forward consumes more
    cases impossible

/-- Only a match that is required can be missed. -/
theorem count (mild : reading.Mild) (forward : reading.Forward) {bounds : Bounds}
    (sensible : bounds.Sensible) (consumes : bounds.upper = none → reading.Consumes)
    (collector : Collector α γ) : (Reading.count bounds collector reading).Mild := by
  intro cursor error failed
  obtain ⟨quota, valid⟩ := sensible.quota_eq_ok
  simp only [Reading.count, valid] at failed
  refine required_rule (fun _ _ => True)
    (fun outcome => ∀ error, outcome = .error error → error.isRecoverable = true)
    ?failure ?step ?last trivial failed error rfl
  case failure =>
    rintro items place error _ ended _ ⟨⟩
    exact mild place error ended
  case step =>
    intro items place found _ succeeded
    trivial
  case last =>
    rintro items place outcome _ more error rfl
    obtain ⟨_, impossible⟩ := mild.extra forward
      (fun unlimited => consumes (Bounds.extra_of_quota valid unlimited)) more
    cases impossible

end Mild

end Reading

/-! ## Parsers -/

variable {τ ρ : Type} {Out : ρ → Type} {α : Type}

/-- The form of the parser promises that no match of it is empty, if no match of a marked
rule is. -/
def Parser.Consuming (marked : ρ → Prop) : {α : Type} → Parser τ Out α → Prop
  | _, .satisfy _ _ _ => True
  | _, .tokens run => run ≠ []
  | _, .eof => False
  | _, .pure _ => False
  | _, .fail _ _ => True
  | _, .map _ _ parser => Consuming marked parser
  | _, .flatMap _ _ parser => Consuming marked parser
  | _, .sequence _ _ first second => Consuming marked first ∨ Consuming marked second
  | _, .twice parser => Consuming marked parser
  | _, .choice first second => Consuming marked first ∧ Consuming marked second
  | _, .zeroOrMore _ _ => False
  | _, .oneOrMore _ _ => True
  | _, .count bounds _ parser => 0 < bounds.lower ∧ Consuming marked parser
  | _, .delayed _ parser => Consuming marked parser
  | _, .rule name => marked name
  | _, .tap _ parser => Consuming marked parser

/-- Everything that is repeated without a limit in the parser is consuming, and all bounds
make sense. -/
def Parser.WellFormed (marked : ρ → Prop) : {α : Type} → Parser τ Out α → Prop
  | _, .satisfy _ _ _ => True
  | _, .tokens _ => True
  | _, .eof => True
  | _, .pure _ => True
  | _, .fail _ _ => True
  | _, .map _ _ parser => WellFormed marked parser
  | _, .flatMap _ binder parser =>
      WellFormed marked parser ∧ ∀ output, WellFormed marked (binder output)
  | _, .sequence _ _ first second => WellFormed marked first ∧ WellFormed marked second
  | _, .twice parser => WellFormed marked parser
  | _, .choice first second => WellFormed marked first ∧ WellFormed marked second
  | _, .zeroOrMore _ parser => WellFormed marked parser ∧ parser.Consuming marked
  | _, .oneOrMore _ parser => WellFormed marked parser ∧ parser.Consuming marked
  | _, .count bounds _ parser =>
      WellFormed marked parser ∧ bounds.Sensible ∧
        (bounds.upper = none → parser.Consuming marked)
  | _, .delayed _ parser => WellFormed marked parser
  | _, .rule _ => True
  | _, .tap _ parser => WellFormed marked parser

/-- A claim that no match of certain rules is empty, borne out by their bodies. -/
structure Rules.Marking (rules : Rules τ Out) where
  marked : ρ → Prop
  consuming : ∀ name, marked name → (rules.body name).Consuming marked

/-- The bodies of all rules are well-formed. -/
def Rules.WellFormed (rules : Rules τ Out) (marking : rules.Marking) : Prop :=
  ∀ name, (rules.body name).WellFormed marking.marked

variable [Token τ]

section Enter

variable {enter : (name : ρ) → Reading τ (Out name)} {marked : ρ → Prop}

/-- The promise is kept if the rules keep theirs. -/
theorem Parser.consumes_reading (forward : ∀ name, (enter name).Forward)
    (consumes : ∀ name, marked name → (enter name).Consumes) (parser : Parser τ Out α)
    (consuming : parser.Consuming marked) : (parser.reading enter).Consumes := by
  induction parser with
  | satisfy note expected accepts => exact .satisfy expected accepts
  | tokens run => exact .tokens consuming
  | eof => exact consuming.elim
  | pure value => exact consuming.elim
  | fail expected actual => exact .fail _
  | map note function parser ih => exact (ih consuming).map function
  | flatMap note binder parser binderIH parserIH =>
      apply (parserIH consuming).flatMap
      intro output
      exact (binder output).forward_reading forward
  | sequence note combine first second firstIH secondIH =>
      exact .sequence (first.forward_reading forward) (second.forward_reading forward)
        (consuming.imp firstIH secondIH) combine
  | twice parser ih =>
      exact .sequence (parser.forward_reading forward) (parser.forward_reading forward)
        (.inl (ih consuming)) Prod.mk
  | choice first second firstIH secondIH =>
      exact (firstIH consuming.1).choice (secondIH consuming.2)
  | zeroOrMore collector parser ih => exact consuming.elim
  | oneOrMore collector parser ih => exact .oneOrMore (parser.forward_reading forward) collector
  | count bounds collector parser ih =>
      exact (ih consuming.2).count (parser.forward_reading forward) consuming.1 collector
  | delayed name parser ih => exact ih consuming
  | rule name => exact consumes name consuming
  | tap name parser ih => exact ih consuming

/-- A parser fails mildly if the rules do. -/
theorem Parser.mild_reading (forward : ∀ name, (enter name).Forward)
    (consumes : ∀ name, marked name → (enter name).Consumes)
    (mild : ∀ name, (enter name).Mild) (parser : Parser τ Out α)
    (wellFormed : parser.WellFormed marked) : (parser.reading enter).Mild := by
  induction parser with
  | satisfy note expected accepts => exact .satisfy expected accepts
  | tokens run => exact .tokens run
  | eof => exact .eof
  | pure value => exact .pure value
  | fail expected actual => exact .fail expected actual
  | map note function parser ih => exact (ih wellFormed).map function
  | flatMap note binder parser binderIH parserIH =>
      apply (parserIH wellFormed.1).flatMap
      intro output
      exact binderIH output (wellFormed.2 output)
  | sequence note combine first second firstIH secondIH =>
      exact (firstIH wellFormed.1).sequence (secondIH wellFormed.2) combine
  | twice parser ih => exact (ih wellFormed).sequence (ih wellFormed) Prod.mk
  | choice first second firstIH secondIH =>
      exact (firstIH wellFormed.1).choice (secondIH wellFormed.2)
  | zeroOrMore collector parser ih =>
      exact (ih wellFormed.1).zeroOrMore (parser.forward_reading forward)
        (parser.consumes_reading forward consumes wellFormed.2) collector
  | oneOrMore collector parser ih =>
      exact (ih wellFormed.1).oneOrMore (parser.forward_reading forward)
        (parser.consumes_reading forward consumes wellFormed.2) collector
  | count bounds collector parser ih =>
      apply (ih wellFormed.1).count (parser.forward_reading forward) wellFormed.2.1
      intro unbounded
      exact parser.consumes_reading forward consumes (wellFormed.2.2 unbounded)
  | delayed name parser ih => exact ih wellFormed
  | rule name => exact mild name
  | tap name parser ih => exact ih wellFormed

end Enter

namespace Rules

variable {rules : Rules τ Out}

theorem Marking.consumes_readingAt (marking : rules.Marking) (depth : Nat) (name : ρ)
    (marked : marking.marked name) : (rules.readingAt depth name).Consumes := by
  induction depth generalizing name with
  | zero =>
      intro cursor found succeeded
      cases succeeded
  | succ depth inductionHypothesis =>
      exact (rules.body name).consumes_reading (rules.forward_readingAt depth)
        inductionHypothesis (marking.consuming name marked)

theorem Marking.consumes_reading (marking : rules.Marking) {parser : Parser τ Out α}
    (consuming : parser.Consuming marking.marked) (depth : Nat) :
    (rules.reading depth parser).Consumes :=
  parser.consumes_reading (rules.forward_readingAt depth) (marking.consumes_readingAt depth)
    consuming

theorem WellFormed.mild_readingAt {marking : rules.Marking}
    (wellFormed : rules.WellFormed marking) (depth : Nat) (name : ρ) :
    (rules.readingAt depth name).Mild := by
  induction depth generalizing name with
  | zero =>
      intro cursor error failed
      cases failed
  | succ depth inductionHypothesis =>
      exact (rules.body name).mild_reading (rules.forward_readingAt depth)
        (marking.consumes_readingAt depth) inductionHypothesis (wellFormed name)

theorem WellFormed.mild_reading {marking : rules.Marking}
    (wellFormed : rules.WellFormed marking) {parser : Parser τ Out α}
    (parserWellFormed : parser.WellFormed marking.marked) (depth : Nat) :
    (rules.reading depth parser).Mild :=
  parser.mild_reading (rules.forward_readingAt depth) (marking.consumes_readingAt depth)
    (wellFormed.mild_readingAt depth) parserWellFormed

/-- Every match of a consuming parser moves on. If all rules are well-formed, every failure
of a well-formed parser is a mismatch, and a well-formed repetition from zero does not fail
at all. A parser with a default never does. -/
theorem run_of_wellFormed (rules : Rules τ Out) (marking : rules.Marking) :
    (∀ {α : Type} (parser : Parser τ Out α), parser.Consuming marking.marked →
      ∀ depth site memory cursor reply found,
        rules.run depth parser site memory cursor = some reply → reply.outcome = .ok found →
        found.rest.source = cursor.source ∧ cursor.position < found.rest.position) ∧
    (rules.WellFormed marking →
      (∀ {α : Type} (parser : Parser τ Out α), parser.WellFormed marking.marked →
        ∀ depth site memory cursor reply error,
          rules.run depth parser site memory cursor = some reply →
          reply.outcome = .error error →
          ∃ expected actual, error.cause = .mismatch expected actual) ∧
      (∀ {α γ : Type} (collector : Collector α γ) (parser : Parser τ Out α),
        (Parser.zeroOrMore collector parser).WellFormed marking.marked →
        ∀ depth site memory cursor reply,
          rules.run depth (.zeroOrMore collector parser) site memory cursor = some reply →
          ∃ found, reply.outcome = .ok found)) ∧
    ∀ {α : Type} (default : α) (parser : Parser τ Out α) depth site memory cursor reply,
      rules.run depth (.optional default parser) site memory cursor = some reply →
      ∃ found, reply.outcome = .ok found := by
  refine ⟨?moves, fun wellFormed => ⟨?mismatch, ?zeroOrMore⟩, ?optional⟩
  case moves =>
    intro α parser consuming depth site memory cursor reply found replies succeeded
    have read := reading_of_run replies
    rw [succeeded] at read
    have leads : cursor.LeadsTo found.rest := rules.forward_reading depth parser _ _ read
    have shorter := marking.consumes_reading consuming depth cursor found read
    have total := cursor.position_add_remainingLength
    have restTotal := found.rest.position_add_remainingLength
    have length := leads.length_eq
    exact ⟨leads.source, by omega⟩
  case mismatch =>
    intro α parser parserWellFormed depth site memory cursor reply error replies failed
    have read := reading_of_run replies
    rw [failed] at read
    exact ParseError.isRecoverable_iff.mp
      (wellFormed.mild_reading parserWellFormed depth cursor error read)
  case zeroOrMore =>
    intro α γ collector parser parserWellFormed depth site memory cursor reply replies
    exact (wellFormed.mild_reading parserWellFormed.1 depth).unlimited
      (rules.forward_reading depth parser)
      (marking.consumes_reading parserWellFormed.2 depth) (reading_of_run replies)
  case optional =>
    intro α default parser depth site memory cursor reply replies
    have read : Reading.choice (rules.reading depth parser) (.pure default) cursor =
        some reply.outcome := reading_of_run replies
    rcases Reading.choice_eq_some read with ⟨found, _, succeeded⟩ | ⟨error, _, others⟩
    · exact ⟨found, succeeded⟩
    rcases others with ⟨found, _, succeeded⟩ | ⟨other, impossible, _⟩
    · exact ⟨found, succeeded⟩
    · cases impossible

/-- Brackets are never empty, whatever is in them. -/
def bracketsMarking : brackets.Marking where
  marked _ := True
  consuming _ _ := ⟨.inl (.inl trivial), trivial⟩

/-- Brackets that are not closed are no reason to fail where any number of them will do. -/
theorem run_of_wellFormed_brackets :
    brackets.WellFormed bracketsMarking ∧
      (Parser.rule () : Parser Char (fun _ : Unit => Nat) Nat).Consuming
        bracketsMarking.marked ∧
      (∃ reply found, brackets.run 3 (.rule ()) [] .blank (.start ⟨0, #['[', '.', ']']⟩) =
          some reply ∧ reply.outcome = .ok found ∧ 0 < found.rest.position) ∧
      ∃ reply found, brackets.run 3 (.zeroOrMore .array (.rule ())) [] .blank
          (.start ⟨0, #['[', '.', ']', '[']⟩) = some reply ∧ reply.outcome = .ok found := by
  have wellFormed : brackets.WellFormed bracketsMarking := by
    intro name
    exact ⟨⟨⟨trivial, trivial⟩, trivial⟩, trivial⟩
  obtain ⟨moves, mild, _⟩ := brackets.run_of_wellFormed bracketsMarking
  have one : (brackets.run 3 (.rule ()) [] .blank (.start ⟨0, #['[', '.', ']']⟩)).map
      (fun reply => reply.outcome.toBool) = some true := by decide +kernel
  have any : (brackets.run 3 (.zeroOrMore .array (.rule ())) [] .blank
      (.start ⟨0, #['[', '.', ']', '[']⟩)).isSome = true := by decide +kernel
  obtain ⟨reply, replies, succeeded⟩ := Option.map_eq_some_iff.mp one
  obtain ⟨anyReply, anyReplies⟩ := Option.isSome_iff_exists.mp any
  obtain ⟨anyFound, anySucceeded⟩ :=
    (mild wellFormed).2 .array (.rule ()) ⟨trivial, trivial⟩ _ _ _ _ anyReply anyReplies
  refine ⟨wellFormed, trivial, ?_, anyReply, anyFound, anyReplies, anySucceeded⟩
  cases outcome : reply.outcome with
  | error error =>
      rw [outcome] at succeeded
      cases succeeded
  | ok found =>
      exact ⟨reply, found, replies, outcome,
        (moves (.rule ()) trivial _ _ _ _ reply found replies outcome).2⟩

end Rules

end Descent
