import Descent.Proofs.Agreement

/-!
# Parsers of one shape

Parsers have one shape if they differ only in what they output and in what they say about
failures. Without a parser that is chosen by an output there is no way from either of these
back to what is read: parsers of one shape succeed and fail alike, at the same places, and
of two alternatives that both fail they report the same one.
-/

namespace Descent

/-- The causes are of one kind: both are mismatches, or they are the same. -/
def Cause.SameKind (cause twin : Cause) : Prop :=
  cause.Resembles (fun _ _ => True) twin

/-- Both outcomes are matches that leave off at one place, or failures of one kind that were
noticed at one place. -/
inductive Outcome.SameControl {τ α β : Type} : Outcome τ α → Outcome τ β → Prop where
  | ok (value : α) (twinValue : β) (rest : Cursor τ) :
      SameControl (.ok ⟨value, rest⟩) (.ok ⟨twinValue, rest⟩)
  | error (remainder : Cursor τ) {cause twinCause : Cause} (kind : cause.SameKind twinCause) :
      SameControl (.error ⟨remainder, cause⟩) (.error ⟨remainder, twinCause⟩)

variable {τ ρ : Type} {Out Twin : ρ → Type} {α β : Type}

/-- The parsers read alike. They may differ in functions, values, collectors and texts, and
so in the types of what they output. No parser is chosen by an output. -/
inductive Parser.SameShape :
    {α β : Type} → Parser τ Out α → Parser τ Twin β → Prop where
  | satisfy (note twinNote : Option String) (expected twinExpected : String)
      (accepts : τ → Bool) :
      SameShape (.satisfy note expected accepts) (.satisfy twinNote twinExpected accepts)
  | tokens (run : List τ) : SameShape (.tokens run) (.tokens run)
  | eof : SameShape .eof .eof
  | pure {α β : Type} (value : α) (twinValue : β) : SameShape (.pure value) (.pure twinValue)
  | fail {α β : Type} (expected actual twinExpected twinActual : String) :
      SameShape (.fail expected actual : Parser τ Out α)
        (.fail twinExpected twinActual : Parser τ Twin β)
  | map {α β γ δ : Type} (note twinNote : Option String) (function : α → γ)
      (twinFunction : β → δ) {parser : Parser τ Out α} {twin : Parser τ Twin β}
      (same : SameShape parser twin) :
      SameShape (.map note function parser) (.map twinNote twinFunction twin)
  | sequence {α β γ δ ε ζ : Type} (note twinNote : Option String) (combine : α → γ → ε)
      (twinCombine : β → δ → ζ) {first : Parser τ Out α} {firstTwin : Parser τ Twin β}
      {second : Parser τ Out γ} {secondTwin : Parser τ Twin δ}
      (firstSame : SameShape first firstTwin) (secondSame : SameShape second secondTwin) :
      SameShape (.sequence note combine first second)
        (.sequence twinNote twinCombine firstTwin secondTwin)
  | twice {α β : Type} {parser : Parser τ Out α} {twin : Parser τ Twin β}
      (same : SameShape parser twin) : SameShape (.twice parser) (.twice twin)
  | choice {α β : Type} {first second : Parser τ Out α}
      {firstTwin secondTwin : Parser τ Twin β} (firstSame : SameShape first firstTwin)
      (secondSame : SameShape second secondTwin) :
      SameShape (.choice first second) (.choice firstTwin secondTwin)
  | zeroOrMore {α β γ δ : Type} (collector : Collector α γ) (twinCollector : Collector β δ)
      {parser : Parser τ Out α} {twin : Parser τ Twin β} (same : SameShape parser twin) :
      SameShape (.zeroOrMore collector parser) (.zeroOrMore twinCollector twin)
  | oneOrMore {α β γ δ : Type} (collector : Collector α γ) (twinCollector : Collector β δ)
      {parser : Parser τ Out α} {twin : Parser τ Twin β} (same : SameShape parser twin) :
      SameShape (.oneOrMore collector parser) (.oneOrMore twinCollector twin)
  | count {α β γ δ : Type} (bounds : Bounds) (collector : Collector α γ)
      (twinCollector : Collector β δ) {parser : Parser τ Out α} {twin : Parser τ Twin β}
      (same : SameShape parser twin) :
      SameShape (.count bounds collector parser) (.count bounds twinCollector twin)
  | delayed {α β : Type} (label twinLabel : String) {parser : Parser τ Out α}
      {twin : Parser τ Twin β} (same : SameShape parser twin) :
      SameShape (.delayed label parser) (.delayed twinLabel twin)
  | rule (name : ρ) : SameShape (.rule name) (.rule name)
  | tap {α β : Type} (label twinLabel : String) {parser : Parser τ Out α}
      {twin : Parser τ Twin β} (same : SameShape parser twin) :
      SameShape (.tap label parser) (.tap twinLabel twin)

/-- Rule by rule, the bodies have one shape. -/
def Rules.SameShape (rules : Rules τ Out) (twins : Rules τ Twin) : Prop :=
  ∀ name, (rules.body name).SameShape (twins.body name)

namespace Parser.SameShape

variable {parser : Parser τ Out α} {twin : Parser τ Twin β}

theorem symm (same : parser.SameShape twin) : twin.SameShape parser := by
  induction same with
  | satisfy note twinNote expected twinExpected accepts => exact .satisfy _ _ _ _ accepts
  | tokens run => exact .tokens run
  | eof => exact .eof
  | pure value twinValue => exact .pure twinValue value
  | fail expected actual twinExpected twinActual => exact .fail _ _ _ _
  | map note twinNote function twinFunction same ih => exact .map _ _ _ _ ih
  | sequence note twinNote combine twinCombine firstSame secondSame firstIH secondIH =>
      exact .sequence _ _ _ _ firstIH secondIH
  | twice same ih => exact .twice ih
  | choice firstSame secondSame firstIH secondIH => exact .choice firstIH secondIH
  | zeroOrMore collector twinCollector same ih => exact .zeroOrMore _ _ ih
  | oneOrMore collector twinCollector same ih => exact .oneOrMore _ _ ih
  | count bounds collector twinCollector same ih => exact .count bounds _ _ ih
  | delayed label twinLabel same ih => exact .delayed _ _ ih
  | rule name => exact .rule name
  | tap label twinLabel same ih => exact .tap _ _ ih

end Parser.SameShape

theorem Rules.SameShape.symm {rules : Rules τ Out} {twins : Rules τ Twin}
    (same : rules.SameShape twins) : twins.SameShape rules := by
  intro name
  exact (same name).symm

/-- Nothing is asked of what is gathered from outputs of which nothing is known. -/
theorem Attempt.Corresponds.Gathers.any {γ δ : Type} (collector : Collector α γ)
    (twin : Collector β δ) : Gathers (fun _ _ => True) (fun _ _ => True) collector twin where
  start := trivial
  push _ _ := trivial

/-- Every cursor faces itself. -/
theorem Cursor.Faces.refl (cursor : Cursor τ) : cursor.Faces Eq cursor := by
  constructor
  rw [List.forall₂_eq_eq_eq]

/-- Corresponding outcomes of two runs from one place are outcomes of one kind. -/
theorem Outcome.Corresponds.sameControl {start : Cursor τ} {values : α → β → Prop}
    {outcome : Outcome τ α} {twin : Outcome τ β}
    (corresponds : outcome.Corresponds
      (.facing (fun _ _ => True) (Cursor.Faces.refl start)) values twin) :
    outcome.SameControl twin := by
  cases corresponds with
  | ok alike places =>
      cases places.eq
      exact .ok _ _ _
  | @error error twin places causes =>
      cases error
      cases twin
      cases places.eq
      exact .error _ causes

variable [Token τ]

/-- Parsers of one shape have readings that agree on everything but outputs. -/
theorem Parser.SameShape.agrees {start : Cursor τ} {enter : (name : ρ) → Reading τ (Out name)}
    {enterTwin : (name : ρ) → Reading τ (Twin name)}
    (agree : ∀ name, Reading.Agrees (.facing (fun _ _ => True) (Cursor.Faces.refl start))
      (fun _ _ => True) (enter name) (enterTwin name))
    {parser : Parser τ Out α} {twin : Parser τ Twin β} (same : parser.SameShape twin) :
    Reading.Agrees (.facing (fun _ _ => True) (Cursor.Faces.refl start)) (fun _ _ => True)
      (parser.reading enter) (twin.reading enterTwin) := by
  induction same with
  | satisfy note twinNote expected twinExpected accepts =>
      apply Reading.Agrees.satisfy trivial
      · intro token twin same
        rw [same]
      · intro token twin same
        trivial
  | tokens run =>
      apply Reading.Agrees.tokens trivial
      · intro token twin other same
        rw [same]
      · trivial
  | eof => exact .eof trivial trivial
  | pure value twinValue => exact .pure trivial
  | fail expected actual twinExpected twinActual => exact .fail (.mismatch trivial _ _)
  | map note twinNote function twinFunction same ih => exact ih.map fun _ => trivial
  | sequence note twinNote combine twinCombine firstSame secondSame firstIH secondIH =>
      exact firstIH.sequence secondIH fun _ _ => trivial
  | twice same ih => exact ih.sequence ih fun _ _ => trivial
  | choice firstSame secondSame firstIH secondIH => exact firstIH.choice secondIH
  | zeroOrMore collector twinCollector same ih => exact ih.zeroOrMore (.any _ _)
  | oneOrMore collector twinCollector same ih => exact ih.oneOrMore (.any _ _)
  | count bounds collector twinCollector same ih => exact ih.count (.any _ _) bounds
  | delayed label twinLabel same ih => exact ih
  | rule name => exact agree name
  | tap label twinLabel same ih => exact ih

namespace Rules

variable {rules : Rules τ Out} {twins : Rules τ Twin}

theorem SameShape.agrees_readingAt (same : rules.SameShape twins) (start : Cursor τ)
    (depth : Nat) (name : ρ) :
    Reading.Agrees (.facing (fun _ _ => True) (Cursor.Faces.refl start)) (fun _ _ => True)
      (rules.readingAt depth name) (twins.readingAt depth name) := by
  induction depth generalizing name with
  | zero =>
      intro cursor twinCursor outcome places read
      cases read
  | succ depth inductionHypothesis => exact (same name).agrees inductionHypothesis

/-- Where a parser ends, one of the same shape ends as well, with the same control. -/
theorem SameShape.sameControl (same : rules.SameShape twins) {parser : Parser τ Out α}
    {twin : Parser τ Twin β} (parserSame : parser.SameShape twin) {depth : Nat}
    {cursor : Cursor τ} {outcome : Outcome τ α}
    (read : rules.reading depth parser cursor = some outcome) :
    ∃ answer, twins.reading depth twin cursor = some answer ∧ outcome.SameControl answer := by
  have agrees := parserSame.agrees (same.agrees_readingAt cursor depth)
  obtain ⟨answer, twinRead, corresponds⟩ := agrees (.start cursor cursor) read
  exact ⟨answer, twinRead, corresponds.sameControl⟩

theorem SameShape.run_eq_none (same : rules.SameShape twins) {parser : Parser τ Out α}
    {twin : Parser τ Twin β} (parserSame : parser.SameShape twin) {depth : Nat} {site : Site}
    {memory : Memory} {cursor : Cursor τ}
    (endless : rules.run depth parser site memory cursor = none) (twinSite : Site)
    (twinMemory : Memory) : twins.run depth twin twinSite twinMemory cursor = none := by
  rw [run_eq_none_iff] at endless ⊢
  cases twinRead : twins.reading depth twin cursor with
  | none => rfl
  | some answer =>
      obtain ⟨outcome, read, _⟩ := same.symm.sameControl parserSame.symm twinRead
      rw [endless] at read
      cases read

/-- A run ends with this failure. -/
def FailsWith (rules : Rules τ Out) (depth : Nat) (parser : Parser τ Out α) (site : Site)
    (memory : Memory) (cursor : Cursor τ) (error : ParseError τ) : Prop :=
  ∃ reply, rules.run depth parser site memory cursor = some reply ∧
    reply.outcome = .error error

theorem failsWith_iff {depth : Nat} {parser : Parser τ Out α} {site : Site} {memory : Memory}
    {cursor : Cursor τ} {error : ParseError τ} :
    rules.FailsWith depth parser site memory cursor error ↔
      rules.reading depth parser cursor = some (.error error) := by
  constructor
  · rintro ⟨reply, replies, failed⟩
    rw [reading_of_run replies, failed]
  · intro read
    exact run_of_reading read site memory

/-- Where both alternatives fail, the choice fails with one of the two failures. -/
theorem failsWith_choice {depth : Nat} {first second : Parser τ Out α} {cursor : Cursor τ}
    {error other : ParseError τ} (failed : rules.FailsWith depth first [] .blank cursor error)
    (alsoFailed : rules.FailsWith depth second [] .blank cursor other) (site : Site)
    (memory : Memory) :
    rules.FailsWith depth (.choice first second) site memory cursor
      (error.furthest other) := by
  rw [failsWith_iff] at failed alsoFailed ⊢
  show Reading.choice (rules.reading depth first) (rules.reading depth second) cursor = _
  simp only [Reading.choice, failed, alsoFailed]

theorem SameShape.remainder_eq (same : rules.SameShape twins) {parser : Parser τ Out α}
    {twin : Parser τ Twin β} (parserSame : parser.SameShape twin) {depth : Nat}
    {cursor : Cursor τ} {error errorTwin : ParseError τ}
    (failed : rules.FailsWith depth parser [] .blank cursor error)
    (twinFailed : twins.FailsWith depth twin [] .blank cursor errorTwin) :
    errorTwin.remainder = error.remainder := by
  rw [failsWith_iff] at failed twinFailed
  obtain ⟨answer, answers, control⟩ := same.sameControl parserSame failed
  cases answers.symm.trans twinFailed
  cases control
  rfl

/-- What parsers output, and what they say about failures, never steers them. Parsers of one
shape either never end, or succeed with the same place behind the match, or fail in the same
way at the same place. Of two alternatives that fail, they report the failure of the same
one. -/
theorem run_of_sameShape (same : rules.SameShape twins) {parser : Parser τ Out α}
    {twin : Parser τ Twin β} (parserSame : parser.SameShape twin) (depth : Nat)
    (site twinSite : Site) (memory twinMemory : Memory) (cursor : Cursor τ) :
    (rules.run depth parser site memory cursor = none ↔
      twins.run depth twin twinSite twinMemory cursor = none) ∧
    (∀ reply answer, rules.run depth parser site memory cursor = some reply →
      twins.run depth twin twinSite twinMemory cursor = some answer →
      reply.outcome.SameControl answer.outcome) ∧
    ∀ {γ δ : Type} {first second : Parser τ Out γ} {firstTwin secondTwin : Parser τ Twin δ}
      {error other errorTwin otherTwin : ParseError τ},
      first.SameShape firstTwin → second.SameShape secondTwin →
      rules.FailsWith depth first [] .blank cursor error →
      rules.FailsWith depth second [] .blank cursor other →
      twins.FailsWith depth firstTwin [] .blank cursor errorTwin →
      twins.FailsWith depth secondTwin [] .blank cursor otherTwin →
      (rules.FailsWith depth (.choice first second) site memory cursor error ∧
        twins.FailsWith depth (.choice firstTwin secondTwin) twinSite twinMemory cursor
          errorTwin) ∨
      (rules.FailsWith depth (.choice first second) site memory cursor other ∧
        twins.FailsWith depth (.choice firstTwin secondTwin) twinSite twinMemory cursor
          otherTwin) := by
  refine ⟨⟨?diverges, ?twinDiverges⟩, ?control, ?picked⟩
  case diverges =>
    intro endless
    exact same.run_eq_none parserSame endless twinSite twinMemory
  case twinDiverges =>
    intro endless
    exact same.symm.run_eq_none parserSame.symm endless site memory
  case control =>
    intro reply answer replies answers
    obtain ⟨_, read, control⟩ := same.sameControl parserSame (reading_of_run replies)
    cases read.symm.trans (reading_of_run answers)
    exact control
  case picked =>
    intro γ δ first second firstTwin secondTwin error other errorTwin otherTwin firstSame
      secondSame failed otherFailed twinFailed otherTwinFailed
    have picked := failsWith_choice failed otherFailed site memory
    have twinPicked := failsWith_choice twinFailed otherTwinFailed twinSite twinMemory
    have left : errorTwin.remainingLength = error.remainingLength := by
      rw [ParseError.remainingLength, same.remainder_eq firstSame failed twinFailed]
      rfl
    have otherLeft : otherTwin.remainingLength = other.remainingLength := by
      rw [ParseError.remainingLength, same.remainder_eq secondSame otherFailed otherTwinFailed]
      rfl
    simp only [ParseError.furthest, left, otherLeft] at picked twinPicked
    split at picked
    · next further =>
        rw [if_pos further] at twinPicked
        exact .inr ⟨picked, twinPicked⟩
    · next further =>
        rw [if_neg further] at twinPicked
        exact .inl ⟨picked, twinPicked⟩

/-- Brackets again, but written out instead of counted, and with other words for what is
missing. -/
def spelledBrackets : Rules Char (fun _ : Unit => String) where
  label _ := "nest"
  body _ :=
    .choice
      (.map (some "wrapped") (fun inner => "(" ++ inner ++ ")")
        (.discardRight (.discardLeft (.satisfy none "an opening" (· == '[')) (.rule ()))
          (.satisfy none "a closing" (· == ']'))))
      (.map none String.singleton (.satisfy none "a dot" (· == '.')))

theorem sameShape_spelledBrackets : brackets.SameShape spelledBrackets := by
  intro name
  apply Parser.SameShape.choice
  · apply Parser.SameShape.map
    apply Parser.SameShape.sequence
    · exact .sequence _ _ _ _ (.satisfy _ _ _ _ _) (.rule ())
    · exact .satisfy _ _ _ _ _
  · exact .map _ _ _ _ (.satisfy _ _ _ _ _)

/-- Counted or written out, brackets that are not closed are noticed at the same place, and
it is the bracket that is missed there and not a dot in its stead. -/
theorem run_of_sameShape_brackets :
    ∃ reply answer,
      brackets.run 3 (.rule ()) [] .blank (.start ⟨0, #['[', '[', '.', '.']⟩) = some reply ∧
      spelledBrackets.run 3 (.rule ()) [] .blank (.start ⟨0, #['[', '[', '.', '.']⟩) =
        some answer ∧
      reply.outcome.place.position = 3 ∧ reply.outcome.SameControl answer.outcome := by
  have place : (brackets.run 3 (.rule ()) [] .blank
      (.start ⟨0, #['[', '[', '.', '.']⟩)).map
        (fun reply => reply.outcome.place.position) = some 3 := by decide +kernel
  have ends : (spelledBrackets.run 3 (.rule ()) [] .blank
      (.start ⟨0, #['[', '[', '.', '.']⟩)).isSome = true := by decide +kernel
  obtain ⟨reply, replies, position⟩ := Option.map_eq_some_iff.mp place
  obtain ⟨answer, answers⟩ := Option.isSome_iff_exists.mp ends
  obtain ⟨_, control, _⟩ := run_of_sameShape sameShape_spelledBrackets (.rule ()) 3 [] []
    .blank .blank (.start ⟨0, #['[', '[', '.', '.']⟩)
  exact ⟨reply, answer, replies, answers, position, control reply answer replies answers⟩

end Rules

end Descent
