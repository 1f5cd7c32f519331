import Descent.Proofs.Agreement
import Descent.Token.Word

/-!
# Parsers and equal tokens

Tokens of some types are equal although they can be told apart, as words are that differ in
case. A parser that compares tokens only by their equality, and whose functions make equal
things of equal ones, does not tell them apart either: it reads two sources alike that are
equal token by token. It stops at the same places, with equal outputs, and says the same
about what it wanted. Only in what was found instead, which is shown as written, may the two
differ.

Which outputs are equal is said by a relation for each parser, so nothing need be assumed of
their types.
-/

namespace Descent

open Attempt.Corresponds (Gathers)

variable {τ ρ : Type} {Out : ρ → Type} {α β : Type}

/-- Both outcomes are matches with equal outputs, or failures that say the same apart from
what was found, at the same position. -/
inductive Outcome.Equal (equal : α → α → Prop) : Outcome τ α → Outcome τ α → Prop where
  | ok {value twinValue : α} {rest twinRest : Cursor τ} (alike : equal value twinValue)
      (position : twinRest.position = rest.position) :
      Equal equal (.ok ⟨value, rest⟩) (.ok ⟨twinValue, twinRest⟩)
  | error {cause twinCause : Cause} {remainder twinRemainder : Cursor τ}
      (causes : cause.Resembles Eq twinCause)
      (position : twinRemainder.position = remainder.position) :
      Equal equal (.error ⟨remainder, cause⟩) (.error ⟨twinRemainder, twinCause⟩)

/-- The parser does not tell equal tokens apart, nor do the functions in it tell equal values
apart. `equal` says which of its outputs are equal, and `ruled` which outputs of rules. -/
inductive Parser.Respects [BEq τ] (ruled : (name : ρ) → Out name → Out name → Prop) :
    {α : Type} → (α → α → Prop) → Parser τ Out α → Prop where
  | satisfy {equal : τ → τ → Prop} (note : Option String) (expected : String)
      {accepts : τ → Bool}
      (alike : ∀ {token twin : τ}, (token == twin) = true → accepts twin = accepts token)
      (outputs : ∀ {token twin : τ}, (token == twin) = true → equal token twin) :
      Respects ruled equal (.satisfy note expected accepts)
  | tokens {equal : List τ → List τ → Prop} {run : List τ} (outputs : equal run run) :
      Respects ruled equal (.tokens run)
  | eof {equal : Unit → Unit → Prop} (outputs : equal () ()) : Respects ruled equal .eof
  | pure {α : Type} {equal : α → α → Prop} {value : α} (outputs : equal value value) :
      Respects ruled equal (.pure value)
  | fail {α : Type} {equal : α → α → Prop} (expected actual : String) :
      Respects ruled equal (.fail expected actual)
  | map {α β : Type} {equal : α → α → Prop} {other : β → β → Prop} (note : Option String)
      {function : α → β} {parser : Parser τ Out α} (respects : Respects ruled equal parser)
      (outputs : ∀ {value twin}, equal value twin → other (function value) (function twin)) :
      Respects ruled other (.map note function parser)
  | sequence {α β γ : Type} {equal : α → α → Prop} {other : β → β → Prop}
      {combined : γ → γ → Prop} (note : Option String) {combine : α → β → γ}
      {first : Parser τ Out α} {second : Parser τ Out β}
      (firstRespects : Respects ruled equal first)
      (secondRespects : Respects ruled other second)
      (outputs : ∀ {value twin further twinFurther}, equal value twin →
        other further twinFurther → combined (combine value further) (combine twin twinFurther)) :
      Respects ruled combined (.sequence note combine first second)
  | twice {α : Type} {equal : α → α → Prop} {combined : α × α → α × α → Prop}
      {parser : Parser τ Out α} (respects : Respects ruled equal parser)
      (outputs : ∀ {value twin further twinFurther}, equal value twin →
        equal further twinFurther → combined (value, further) (twin, twinFurther)) :
      Respects ruled combined (.twice parser)
  | choice {α : Type} {equal : α → α → Prop} {first second : Parser τ Out α}
      (firstRespects : Respects ruled equal first)
      (secondRespects : Respects ruled equal second) :
      Respects ruled equal (.choice first second)
  | zeroOrMore {α γ : Type} {equal : α → α → Prop} {gathered : γ → γ → Prop}
      {collector : Collector α γ} {parser : Parser τ Out α}
      (respects : Respects ruled equal parser)
      (gathers : Gathers equal gathered collector collector) :
      Respects ruled gathered (.zeroOrMore collector parser)
  | oneOrMore {α γ : Type} {equal : α → α → Prop} {gathered : γ → γ → Prop}
      {collector : Collector α γ} {parser : Parser τ Out α}
      (respects : Respects ruled equal parser)
      (gathers : Gathers equal gathered collector collector) :
      Respects ruled gathered (.oneOrMore collector parser)
  | count {α γ : Type} {equal : α → α → Prop} {gathered : γ → γ → Prop} (bounds : Bounds)
      {collector : Collector α γ} {parser : Parser τ Out α}
      (respects : Respects ruled equal parser)
      (gathers : Gathers equal gathered collector collector) :
      Respects ruled gathered (.count bounds collector parser)
  | delayed {α : Type} {equal : α → α → Prop} (label : String) {parser : Parser τ Out α}
      (respects : Respects ruled equal parser) : Respects ruled equal (.delayed label parser)
  | rule {name : ρ} {equal : Out name → Out name → Prop}
      (outputs : ∀ {value twin}, ruled name value twin → equal value twin) :
      Respects ruled equal (.rule name)
  | tap {α : Type} {equal : α → α → Prop} (label : String) {parser : Parser τ Out α}
      (respects : Respects ruled equal parser) : Respects ruled equal (.tap label parser)

/-- No body of a rule tells equal tokens apart. -/
def Rules.Respects [BEq τ] (rules : Rules τ Out)
    (ruled : (name : ρ) → Out name → Out name → Prop) : Prop :=
  ∀ name, (rules.body name).Respects ruled (ruled name)

/-! ## Equal outputs -/

/-- Lists of equal outputs are gathered from equal outputs. -/
theorem Attempt.Corresponds.Gathers.array (equal : α → β → Prop) :
    Gathers equal (fun items twins => List.Forall₂ equal items.toList twins.toList)
      Collector.array Collector.array where
  start := .nil
  push items alike := by
    simp only [Collector.array, Array.toList_push]
    exact List.rel_append items (.cons alike .nil)

theorem Attempt.Corresponds.Gathers.unit (equal : α → β → Prop) :
    Gathers equal Eq Collector.unit Collector.unit where
  start := rfl
  push _ _ := rfl

/-! ## Single tokens -/

/-- The tokens are equal, though they need not be the same. -/
def EqualTokens [BEq τ] (token twin : τ) : Prop := (token == twin) = true

namespace Parser.Respects

variable {ruled : (name : ρ) → Out name → Out name → Prop}

theorem any [BEq τ] : (Parser.any : Parser τ Out τ).Respects ruled EqualTokens := by
  apply satisfy
  · intro token twin same
    rfl
  · exact id

variable [Token τ] [EquivBEq τ]

theorem token (wanted : τ) :
    (Parser.token wanted : Parser τ Out τ).Respects ruled EqualTokens := by
  apply satisfy
  · intro token twin same
    exact (BEq.congr_left same).symm
  · exact id

theorem except (unwanted : τ) :
    (Parser.except unwanted : Parser τ Out τ).Respects ruled EqualTokens := by
  apply satisfy
  · intro token twin same
    rw [bne, bne, BEq.congr_left same]
  · exact id

theorem oneOf (wanted : List τ) :
    (Parser.oneOf wanted : Parser τ Out τ).Respects ruled EqualTokens := by
  apply satisfy
  · intro token twin same
    exact (List.contains_congr same).symm
  · exact id

theorem noneOf (unwanted : List τ) :
    (Parser.noneOf unwanted : Parser τ Out τ).Respects ruled EqualTokens := by
  apply satisfy
  · intro token twin same
    rw [List.contains_congr same]
  · exact id

end Parser.Respects

/-! ## Runs -/

section Runs

variable [Token τ] [EquivBEq τ] {ruled : (name : ρ) → Out name → Out name → Prop}
variable {near far : Cursor τ} {faces : near.Faces EqualTokens far}

/-- A parser that does not tell equal tokens apart has a reading that agrees with itself
where tokens are equal. -/
theorem Parser.Respects.agrees {enter : (name : ρ) → Reading τ (Out name)}
    (agree : ∀ name, Reading.Agrees (.facing Eq faces) (ruled name) (enter name) (enter name))
    {equal : α → α → Prop} {parser : Parser τ Out α} (respects : parser.Respects ruled equal) :
    Reading.Agrees (.facing Eq faces) equal (parser.reading enter) (parser.reading enter) := by
  induction respects with
  | satisfy note expected alike outputs => exact .satisfy rfl alike outputs
  | tokens outputs =>
      apply Reading.Agrees.tokens rfl _ outputs
      intro token twin other same
      exact (BEq.congr_left same).symm
  | eof outputs => exact .eof rfl outputs
  | pure outputs => exact .pure outputs
  | fail expected actual => exact .fail (.self _)
  | map note respects outputs ih => exact ih.map outputs
  | sequence note firstRespects secondRespects outputs firstIH secondIH =>
      exact firstIH.sequence secondIH outputs
  | twice respects outputs ih => exact ih.sequence ih outputs
  | choice firstRespects secondRespects firstIH secondIH => exact firstIH.choice secondIH
  | zeroOrMore respects gathers ih => exact ih.zeroOrMore gathers
  | oneOrMore respects gathers ih => exact ih.oneOrMore gathers
  | count bounds respects gathers ih => exact ih.count gathers bounds
  | delayed label respects ih => exact ih
  | @rule name equal outputs => exact (agree name).mono outputs
  | tap label respects ih => exact ih

omit [EquivBEq τ] in
/-- Outcomes that correspond are equal if the runs started at the same position. -/
theorem Outcome.Corresponds.equal {equal : α → α → Prop} {outcome twin : Outcome τ α}
    (corresponds : outcome.Corresponds (.facing Eq faces) equal twin)
    (level : far.position = near.position) : outcome.Equal equal twin := by
  cases corresponds with
  | ok alike places => exact .ok alike (places.position_eq level)
  | @error error twin places causes => exact .error causes (places.position_eq level)

namespace Cursor.Faces

omit [Token τ] [EquivBEq τ] in
/-- At the same position of sources with matching tokens, the tokens that are left match. -/
theorem of_source {matching : τ → τ → Prop}
    (tokens : List.Forall₂ matching near.source.tokens.toList far.source.tokens.toList)
    (level : far.position = near.position) : near.Faces matching far := by
  constructor
  rw [remaining_eq, remaining_eq, level]
  exact List.forall₂_drop near.position tokens

theorem symm (faces : near.Faces EqualTokens far) : far.Faces EqualTokens near := by
  constructor
  apply List.Forall₂.flip
  apply List.Forall₂.imp _ faces.alike
  intro token twin same
  exact BEq.symm same

end Cursor.Faces

namespace Rules

variable {rules : Rules τ Out}

theorem Respects.agrees_readingAt (bodies : rules.Respects ruled)
    (faces : near.Faces EqualTokens far) (depth : Nat) (name : ρ) :
    Reading.Agrees (.facing Eq faces) (ruled name) (rules.readingAt depth name)
      (rules.readingAt depth name) := by
  induction depth generalizing name with
  | zero =>
      intro cursor twinCursor outcome places read
      cases read
  | succ depth inductionHypothesis => exact (bodies name).agrees inductionHypothesis

/-- Where equal tokens are left, a parser ends that ends where they are written otherwise. -/
theorem Respects.equal (bodies : rules.Respects ruled) {equal : α → α → Prop}
    {parser : Parser τ Out α} (respects : parser.Respects ruled equal)
    (faces : near.Faces EqualTokens far) (level : far.position = near.position) {depth : Nat}
    {outcome : Outcome τ α} (read : rules.reading depth parser near = some outcome) :
    ∃ answer, rules.reading depth parser far = some answer ∧ outcome.Equal equal answer := by
  have agrees := respects.agrees (bodies.agrees_readingAt faces depth)
  obtain ⟨answer, twinRead, corresponds⟩ := agrees (.start near far) read
  exact ⟨answer, twinRead, corresponds.equal level⟩

theorem Respects.run_eq_none (bodies : rules.Respects ruled) {equal : α → α → Prop}
    {parser : Parser τ Out α} (respects : parser.Respects ruled equal)
    (faces : near.Faces EqualTokens far) (level : far.position = near.position) {depth : Nat}
    {site : Site} {memory : Memory}
    (endless : rules.run depth parser site memory near = none) (twinSite : Site)
    (twinMemory : Memory) : rules.run depth parser twinSite twinMemory far = none := by
  rw [run_eq_none_iff] at endless ⊢
  cases twinRead : rules.reading depth parser far with
  | none => rfl
  | some answer =>
      obtain ⟨outcome, read, _⟩ := bodies.equal respects faces.symm level.symm twinRead
      rw [endless] at read
      cases read

/-- A parser that does not tell equal tokens apart reads sources alike that are equal token
by token. From the same position its runs either never end, or leave off at the same position
with equal outputs, or fail there for the same reason and with the same words, those for what
was found apart. -/
theorem run_of_equalTokens (bodies : rules.Respects ruled) {equal : α → α → Prop}
    {parser : Parser τ Out α} (respects : parser.Respects ruled equal)
    {cursor twin : Cursor τ}
    (tokens : List.Forall₂ EqualTokens cursor.source.tokens.toList twin.source.tokens.toList)
    (level : twin.position = cursor.position) (depth : Nat) (site twinSite : Site)
    (memory twinMemory : Memory) :
    (rules.run depth parser site memory cursor = none ↔
      rules.run depth parser twinSite twinMemory twin = none) ∧
    ∀ reply answer, rules.run depth parser site memory cursor = some reply →
      rules.run depth parser twinSite twinMemory twin = some answer →
      reply.outcome.Equal equal answer.outcome := by
  have faces : cursor.Faces EqualTokens twin := .of_source tokens level
  constructor
  · constructor
    · intro endless
      exact bodies.run_eq_none respects faces level endless twinSite twinMemory
    · intro endless
      exact bodies.run_eq_none respects faces.symm level.symm endless site memory
  · intro reply answer replies answers
    obtain ⟨_, read, same⟩ := bodies.equal respects faces level (reading_of_run replies)
    cases read.symm.trans (reading_of_run answers)
    exact same

end Rules

end Runs

/-! ## Words -/

namespace Rules

/-- Words up to one that ends them. -/
def words : Rules Word (fun _ : Unit => List Word) where
  label _ := "words"
  body _ :=
    .choice (.sequence none List.cons (.noneOf [⟨"stop"⟩, ⟨"end"⟩]) (.rule ()))
      (.map none (fun _ => []) (.oneOf [⟨"Stop"⟩, ⟨"End"⟩]))

/-- What is said, and the next word unless something else is said then. -/
def speech : Parser Word (fun _ : Unit => List Word) (List Word × Array Word) :=
  .both (.discardLeft (.token ⟨"Say"⟩) (.rule ()))
    (.discardRight (.count ⟨0, some 1⟩ .array (.except ⟨"say"⟩)) (.zeroOrMore .unit .any))

theorem respects_words :
    words.Respects fun _ => List.Forall₂ (EqualTokens (τ := Word)) := by
  intro name
  apply Parser.Respects.choice
  · apply Parser.Respects.sequence none (.noneOf _) (.rule id)
    intro value twin further twinFurther same furtherSame
    exact .cons same furtherSame
  · apply Parser.Respects.map none (.oneOf _)
    intro value twin same
    exact .nil

theorem respects_speech :
    speech.Respects (fun _ => List.Forall₂ (EqualTokens (τ := Word))) fun said twin =>
      List.Forall₂ EqualTokens said.1 twin.1 ∧
        List.Forall₂ EqualTokens said.2.toList twin.2.toList := by
  apply Parser.Respects.sequence none
  · exact .sequence none (.token _) (.rule id) fun _ same => same
  · exact .sequence none (.count _ (.except _) (.array _)) (.zeroOrMore .any (.unit _))
      fun same _ => same
  · intro value twin further twinFurther same furtherSame
    exact ⟨same, furtherSame⟩

/-- A speech, and the same one written otherwise. -/
def spoken : Source Word := ⟨0, #[⟨"SAY"⟩, ⟨"Hello"⟩, ⟨"end"⟩, ⟨"Bye"⟩, ⟨"now"⟩]⟩

def respoken : Source Word := ⟨1, #[⟨"say"⟩, ⟨"HELLO"⟩, ⟨"End"⟩, ⟨"bye"⟩, ⟨"Now"⟩]⟩

/-- However it is written, the same is said. -/
theorem run_of_equalTokens_speech :
    ∃ reply answer, words.run 3 speech [] .blank (.start spoken) = some reply ∧
      words.run 3 speech [] .blank (.start respoken) = some answer ∧
      reply.outcome.place.position = 5 ∧
      reply.outcome.Equal (fun said twin => List.Forall₂ EqualTokens said.1 twin.1 ∧
        List.Forall₂ EqualTokens said.2.toList twin.2.toList) answer.outcome := by
  have place : (words.run 3 speech [] .blank (.start spoken)).map
      (fun reply => reply.outcome.place.position) = some 5 := by
    simp only [words, speech, Parser.noneOf, Parser.oneOf, Parser.token, Parser.except,
      Word.beq_eq, bne, List.contains_cons, List.contains_nil]
    decide +kernel
  have tokens : List.Forall₂ EqualTokens (Cursor.start spoken).source.tokens.toList
      (Cursor.start respoken).source.tokens.toList := by
    simp only [Cursor.source_start, spoken, respoken, List.forall₂_cons, List.forall₂_same,
      EqualTokens, Word.beq_eq]
    decide +kernel
  obtain ⟨reply, replies, position⟩ := Option.map_eq_some_iff.mp place
  obtain ⟨ends, equal⟩ := run_of_equalTokens respects_words respects_speech tokens rfl 3 [] []
    .blank .blank
  have answered : words.run 3 speech [] .blank (.start respoken) ≠ none := by
    intro endless
    rw [ends.mpr endless] at replies
    cases replies
  obtain ⟨answer, answers⟩ := Option.ne_none_iff_exists'.mp answered
  exact ⟨reply, answer, replies, answers, position, equal reply answer replies answers⟩

end Rules

end Descent
