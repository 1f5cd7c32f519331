import Descent.Proofs.Depth
import Descent.Proofs.Position

/-!
# Runs that end

A rule that is open can be opened again only further into the input if every rule in
its body stands behind a parser that never matches nothing. Then no more rules are
open at once than there are tokens left, and one more. Repetitions need no such care:
the only one that could go on forever is stopped by a match of nothing, and every
other match leaves fewer tokens.

Three things get smaller in turn: the tokens left, the parser, and the count of a
loop with a limit. The first is carried by `EndsBelow`, the others by the recursions
of parsers and of loops.
-/

namespace Descent

namespace Reading

variable {τ α β γ : Type}

/-- Where a match leads to, no more tokens are left than before. -/
theorem Forward.near {reading : Reading τ α} (forward : reading.Forward) {cursor : Cursor τ}
    {found : Match τ α} {bound : Nat} (near : cursor.remainingLength < bound)
    (succeeded : reading cursor = some (.ok found)) :
    found.rest.remainingLength < bound :=
  Nat.lt_of_le_of_lt (forward _ _ succeeded).remainingLength_le near

/-- The reading has an outcome wherever fewer tokens than the bound are left. -/
def EndsBelow (reading : Reading τ α) (bound : Nat) : Prop :=
  ∀ cursor, cursor.remainingLength < bound → ∃ outcome, reading cursor = some outcome

namespace EndsBelow

variable {bound : Nat}

/-! ## Single steps -/

theorem satisfy [Token τ] (expected : String) (accepts : τ → Bool) :
    (Reading.satisfy expected accepts).EndsBelow bound := by
  intro cursor near
  simp only [Reading.satisfy]
  split
  · exact ⟨_, rfl⟩
  · split
    · exact ⟨_, rfl⟩
    · exact ⟨_, rfl⟩

theorem tokens [Token τ] (run : List τ) : (Reading.tokens run).EndsBelow bound := by
  intro cursor near
  simp only [Reading.tokens]
  split
  · exact ⟨_, rfl⟩
  · exact ⟨_, rfl⟩

theorem eof [Token τ] : (Reading.eof (τ := τ)).EndsBelow bound := by
  intro cursor near
  simp only [Reading.eof]
  split
  · exact ⟨_, rfl⟩
  · exact ⟨_, rfl⟩

theorem pure (value : α) : (Reading.pure (τ := τ) value).EndsBelow bound := by
  intro cursor near
  exact ⟨_, rfl⟩

theorem fail (cause : Cause) : (Reading.fail (τ := τ) (α := α) cause).EndsBelow bound := by
  intro cursor near
  exact ⟨_, rfl⟩

/-! ## One reading after another -/

variable {reading first second : Reading τ α}

/-- It is enough that the second reading ends wherever a match of the first one may
lead to. -/
theorem flatMap {choose : α → Reading τ β} (ends : reading.EndsBelow bound)
    (chosen : ∀ cursor found, cursor.remainingLength < bound →
      reading cursor = some (.ok found) →
      ∃ outcome, choose found.value found.rest = some outcome) :
    (reading.flatMap choose).EndsBelow bound := by
  intro cursor near
  obtain ⟨outcome, reads⟩ := ends cursor near
  rw [Reading.flatMap, andThen, reads]
  cases outcome with
  | error error => exact ⟨_, rfl⟩
  | ok found => exact chosen cursor found near reads

theorem map_at {cursor : Cursor τ} (ends : ∃ outcome, reading cursor = some outcome)
    (function : α → β) : ∃ outcome, reading.map function cursor = some outcome := by
  rcases ends with ⟨outcome, reads⟩
  rw [Reading.map, andThen, reads]
  cases outcome with
  | error error => exact ⟨_, rfl⟩
  | ok found => exact ⟨_, rfl⟩

theorem map (ends : reading.EndsBelow bound) (function : α → β) :
    (reading.map function).EndsBelow bound := by
  intro cursor near
  exact map_at (ends cursor near) function

theorem sequence {other : Reading τ β} (ends : reading.EndsBelow bound)
    (otherEnds : ∀ cursor found, cursor.remainingLength < bound →
      reading cursor = some (.ok found) → ∃ outcome, other found.rest = some outcome)
    (combine : α → β → γ) :
    (Reading.sequence combine reading other).EndsBelow bound := by
  apply ends.flatMap
  intro cursor found near succeeded
  exact map_at (otherEnds cursor found near succeeded) (combine found.value)

theorem choice (ends : first.EndsBelow bound) (otherEnds : second.EndsBelow bound) :
    (Reading.choice first second).EndsBelow bound := by
  intro cursor near
  obtain ⟨outcome, reads⟩ := ends cursor near
  obtain ⟨other, otherReads⟩ := otherEnds cursor near
  rw [Reading.choice, reads]
  cases outcome with
  | ok found => exact ⟨_, rfl⟩
  | error error =>
      rw [otherReads]
      cases other with
      | ok found => exact ⟨_, rfl⟩
      | error other => exact ⟨_, rfl⟩

/-! ## Repetition -/

theorem unlimited (ends : reading.EndsBelow bound) (forward : reading.Forward)
    (push : γ → α → γ) (items : γ) (cursor : Cursor τ)
    (near : cursor.remainingLength < bound) :
    ∃ outcome, reading.unlimited push items cursor = some outcome := by
  obtain ⟨outcome, reads⟩ := ends cursor near
  rw [forward.unlimited_eq, reads]
  cases outcome with
  | error error =>
      dsimp only
      split
      · exact ⟨_, rfl⟩
      · exact ⟨_, rfl⟩
  | ok found =>
      dsimp only
      split
      · exact ⟨_, rfl⟩
      · next moved =>
          have shorter := forward.remainingLength_lt reads (Bool.eq_false_iff.mpr moved)
          exact ends.unlimited forward push (push items found.value) found.rest
            (Nat.lt_trans shorter near)
termination_by cursor.remainingLength

theorem limited (ends : reading.EndsBelow bound) (forward : reading.Forward)
    (push : γ → α → γ) (limit : Nat) (items : γ) (cursor : Cursor τ)
    (near : cursor.remainingLength < bound) :
    ∃ outcome, reading.limited push limit items cursor = some outcome := by
  induction limit generalizing items cursor with
  | zero => exact ⟨_, rfl⟩
  | succ limit inductionHypothesis =>
      obtain ⟨outcome, reads⟩ := ends cursor near
      rw [Reading.limited, reads]
      cases outcome with
      | error error =>
          dsimp only
          split
          · exact ⟨_, rfl⟩
          · exact ⟨_, rfl⟩
      | ok found =>
          exact inductionHypothesis (push items found.value) found.rest
            (forward.near near reads)

theorem required (ends : reading.EndsBelow bound) (forward : reading.Forward)
    (push : γ → α → γ) {onward : γ → Cursor τ → Option (Outcome τ γ)}
    (onwardEnds : ∀ items cursor, cursor.remainingLength < bound →
      ∃ outcome, onward items cursor = some outcome)
    (count : Nat) (items : γ) (cursor : Cursor τ)
    (near : cursor.remainingLength < bound) :
    ∃ outcome, reading.required push onward count items cursor = some outcome := by
  induction count generalizing items cursor with
  | zero => exact onwardEnds items cursor near
  | succ count inductionHypothesis =>
      obtain ⟨outcome, reads⟩ := ends cursor near
      rw [Reading.required, andThen, reads]
      cases outcome with
      | error error => exact ⟨_, rfl⟩
      | ok found =>
          exact inductionHypothesis (push items found.value) found.rest
            (forward.near near reads)

theorem zeroOrMore (ends : reading.EndsBelow bound) (forward : reading.Forward)
    (collector : Collector α γ) :
    (Reading.zeroOrMore collector reading).EndsBelow bound := by
  intro cursor near
  exact ends.unlimited forward collector.push collector.start cursor near

theorem oneOrMore (ends : reading.EndsBelow bound) (forward : reading.Forward)
    (collector : Collector α γ) :
    (Reading.oneOrMore collector reading).EndsBelow bound := by
  intro cursor near
  obtain ⟨outcome, reads⟩ := ends cursor near
  rw [Reading.oneOrMore, andThen, reads]
  cases outcome with
  | error error => exact ⟨_, rfl⟩
  | ok found =>
      dsimp only
      split
      · exact ⟨_, rfl⟩
      · exact ends.unlimited forward collector.push _ found.rest
          (forward.near near reads)

theorem count (ends : reading.EndsBelow bound) (forward : reading.Forward)
    (bounds : Bounds) (collector : Collector α γ) :
    (Reading.count bounds collector reading).EndsBelow bound := by
  intro cursor near
  simp only [Reading.count]
  split
  · exact ⟨_, rfl⟩
  · next quota valid =>
      refine ends.required forward collector.push ?_ quota.required collector.start cursor near
      intro items cursor near
      cases quota.extra with
      | none => exact ends.unlimited forward collector.push items cursor near
      | some limit => exact ends.limited forward collector.push limit items cursor near

end EndsBelow

end Reading

/-! ## Parsers -/

variable {τ ρ : Type} [Token τ] {Out : ρ → Type} {α : Type}

/-- Every rule in the parser stands behind a parser that can guard it: in what comes
second in a row, or in what a binder returns, after a guard. -/
def Parser.RulesBehind (guards : {β : Type} → Parser τ Out β → Prop) :
    {α : Type} → Parser τ Out α → Prop
  | _, .satisfy _ _ _ => True
  | _, .tokens _ => True
  | _, .eof => True
  | _, .pure _ => True
  | _, .fail _ _ => True
  | _, .map _ _ parser => RulesBehind guards parser
  | _, .flatMap _ binder parser =>
      RulesBehind guards parser ∧
        (guards parser ∨ ∀ output, RulesBehind guards (binder output))
  | _, .sequence _ _ first second =>
      RulesBehind guards first ∧ (guards first ∨ RulesBehind guards second)
  | _, .twice parser => RulesBehind guards parser
  | _, .choice first second => RulesBehind guards first ∧ RulesBehind guards second
  | _, .zeroOrMore _ parser => RulesBehind guards parser
  | _, .oneOrMore _ parser => RulesBehind guards parser
  | _, .count _ _ parser => RulesBehind guards parser
  | _, .delayed _ parser => RulesBehind guards parser
  | _, .rule _ => False
  | _, .tap _ parser => RulesBehind guards parser

/-- No rule stands anywhere in the parser: there is none if nothing can guard it. -/
def Parser.RuleFree (parser : Parser τ Out α) : Prop :=
  parser.RulesBehind fun _ => False

/-- No run of the parser matches nothing. -/
def Rules.Advances (rules : Rules τ Out) (parser : Parser τ Out α) : Prop :=
  ∀ depth site memory cursor reply found,
    rules.run depth parser site memory cursor = some reply →
    reply.outcome = .ok found → found.rest ≠ cursor

/-- Every rule in the body of a rule stands behind a parser that advances. -/
def Rules.Guarded (rules : Rules τ Out) : Prop :=
  ∀ name, (rules.body name).RulesBehind rules.Advances

section Enter

variable {enter : (name : ρ) → Reading τ (Out name)} {bound : Nat}

/-- A parser ends wherever all rules do. -/
theorem Parser.endsBelow_reading (forward : ∀ name, (enter name).Forward)
    (ends : ∀ name, (enter name).EndsBelow bound) (parser : Parser τ Out α) :
    (parser.reading enter).EndsBelow bound := by
  induction parser with
  | satisfy note expected accepts => exact .satisfy expected accepts
  | tokens run => exact .tokens run
  | eof => exact .eof
  | pure value => exact .pure value
  | fail expected actual => exact .fail _
  | map note function parser ih => exact ih.map function
  | flatMap note binder parser binderIH parserIH =>
      apply parserIH.flatMap
      intro cursor found near succeeded
      exact binderIH found.value found.rest
        ((parser.forward_reading forward).near near succeeded)
  | sequence note combine first second firstIH secondIH =>
      refine firstIH.sequence ?_ combine
      intro cursor found near succeeded
      exact secondIH found.rest
        ((first.forward_reading forward).near near succeeded)
  | twice parser ih =>
      refine ih.sequence ?_ Prod.mk
      intro cursor found near succeeded
      exact ih found.rest ((parser.forward_reading forward).near near succeeded)
  | choice first second firstIH secondIH => exact firstIH.choice secondIH
  | zeroOrMore collector parser ih =>
      exact ih.zeroOrMore (parser.forward_reading forward) collector
  | oneOrMore collector parser ih =>
      exact ih.oneOrMore (parser.forward_reading forward) collector
  | count bounds collector parser ih =>
      exact ih.count (parser.forward_reading forward) bounds collector
  | delayed name parser ih => exact ih
  | rule name => exact ends name
  | tap name parser ih => exact ih

/-- Behind a guard there is less left than the guard started with. So it is enough
that the rules end there. -/
theorem Parser.endsBelow_reading_of_rulesBehind (less : Nat)
    {guards : {β : Type} → Parser τ Out β → Prop} (forward : ∀ name, (enter name).Forward)
    (ends : ∀ name, (enter name).EndsBelow less)
    (passed : ∀ {β : Type} {guard : Parser τ Out β} {cursor : Cursor τ} {found : Match τ β},
      guards guard → guard.reading enter cursor = some (.ok found) →
      cursor.remainingLength < bound → found.rest.remainingLength < less)
    (parser : Parser τ Out α) (behind : parser.RulesBehind guards) :
    (parser.reading enter).EndsBelow bound := by
  induction parser with
  | satisfy note expected accepts => exact .satisfy expected accepts
  | tokens run => exact .tokens run
  | eof => exact .eof
  | pure value => exact .pure value
  | fail expected actual => exact .fail _
  | map note function parser ih => exact (ih behind).map function
  | flatMap note binder parser binderIH parserIH =>
      apply (parserIH behind.1).flatMap
      intro cursor found near succeeded
      rcases behind.2 with guard | bodyBehind
      · exact (binder found.value).endsBelow_reading forward ends found.rest
          (passed guard succeeded near)
      · exact binderIH found.value (bodyBehind found.value) found.rest
          ((parser.forward_reading forward).near near succeeded)
  | sequence note combine first second firstIH secondIH =>
      refine (firstIH behind.1).sequence ?_ combine
      intro cursor found near succeeded
      rcases behind.2 with guard | secondBehind
      · exact second.endsBelow_reading forward ends found.rest (passed guard succeeded near)
      · exact secondIH secondBehind found.rest
          ((first.forward_reading forward).near near succeeded)
  | twice parser ih =>
      refine (ih behind).sequence ?_ Prod.mk
      intro cursor found near succeeded
      exact ih behind found.rest
        ((parser.forward_reading forward).near near succeeded)
  | choice first second firstIH secondIH =>
      exact (firstIH behind.1).choice (secondIH behind.2)
  | zeroOrMore collector parser ih =>
      exact (ih behind).zeroOrMore (parser.forward_reading forward) collector
  | oneOrMore collector parser ih =>
      exact (ih behind).oneOrMore (parser.forward_reading forward) collector
  | count bounds collector parser ih =>
      exact (ih behind).count (parser.forward_reading forward) bounds collector
  | delayed name parser ih => exact ih behind
  | rule name => exact behind.elim
  | tap name parser ih => exact ih behind

end Enter

namespace Rules

/-- A parser advances if its readings do. -/
theorem advances_iff {rules : Rules τ Out} {parser : Parser τ Out α} :
    rules.Advances parser ↔
      ∀ depth cursor found, rules.reading depth parser cursor = some (.ok found) →
        found.rest ≠ cursor := by
  constructor
  · intro advances depth cursor found succeeded
    obtain ⟨reply, replies, outcome⟩ := run_of_reading succeeded [] .blank
    exact advances depth _ _ _ _ _ replies outcome
  · intro moves depth site memory cursor reply found replies succeeded
    apply moves depth
    rw [← succeeded]
    exact reading_of_run replies

/-- After a parser that advances, fewer tokens are left. -/
theorem Advances.remainingLength_lt {rules : Rules τ Out} {parser : Parser τ Out α}
    (advances : rules.Advances parser) {depth : Nat} {cursor : Cursor τ}
    {found : Match τ α} (succeeded : rules.reading depth parser cursor = some (.ok found)) :
    found.rest.remainingLength < cursor.remainingLength := by
  have leads : cursor.LeadsTo found.rest := rules.forward_reading depth parser _ _ succeeded
  exact leads.remainingLength_lt (advances_iff.mp advances _ _ _ succeeded)

/-- A parser for a single token advances. -/
theorem advances_satisfy (rules : Rules τ Out) (note : Option String) (expected : String)
    (accepts : τ → Bool) : rules.Advances (.satisfy note expected accepts) := by
  rw [advances_iff]
  intro depth cursor found succeeded still
  obtain ⟨seen, _⟩ := Reading.satisfy_eq_ok.mp succeeded
  have position := Cursor.position_of_peek seen
  rw [still] at position
  omega

/-- A parser advances whatever is made of its output. -/
theorem Advances.map {rules : Rules τ Out} {parser : Parser τ Out α} {β : Type}
    (advances : rules.Advances parser) (note : Option String) (function : α → β) :
    rules.Advances (.map note function parser) := by
  rw [advances_iff] at advances ⊢
  intro depth cursor found succeeded
  obtain ⟨before, read, rfl⟩ := Reading.map_eq_ok.mp succeeded
  exact advances depth cursor before read

/-- Guarded rules end if they may be nested once for each token left, and once more. -/
theorem Guarded.endsBelow_readingAt {rules : Rules τ Out} (guarded : rules.Guarded)
    (depth : Nat) (name : ρ) : (rules.readingAt depth name).EndsBelow depth := by
  induction depth generalizing name with
  | zero =>
      intro cursor near
      exact absurd near (Nat.not_lt_zero _)
  | succ depth inductionHypothesis =>
      apply Parser.endsBelow_reading_of_rulesBehind depth (rules.forward_readingAt depth)
        inductionHypothesis _ _ (guarded name)
      intro β guard cursor found advances succeeded near
      have shorter := Advances.remainingLength_lt advances succeeded
      omega

theorem run_of_endsBelow {rules : Rules τ Out} {parser : Parser τ Out α} {depth bound : Nat}
    (ends : (rules.reading depth parser).EndsBelow bound) (site : Site) (memory : Memory)
    {cursor : Cursor τ} (near : cursor.remainingLength < bound) :
    ∃ reply, rules.run depth parser site memory cursor = some reply := by
  obtain ⟨outcome, reads⟩ := ends cursor near
  obtain ⟨reply, replies, _⟩ := run_of_reading reads site memory
  exact ⟨reply, replies⟩

/-- With guarded rules every parser ends everywhere, without ever having more rules
open at once than there are tokens left and one more; and a parser without rules ends
everywhere without any. Greater depths make no difference. -/
theorem run_ends (rules : Rules τ Out) :
    (rules.Guarded → ∀ {α : Type} (parser : Parser τ Out α) site memory cursor,
      ∃ reply, ∀ depth, cursor.remainingLength + 1 ≤ depth →
        rules.run depth parser site memory cursor = some reply) ∧
    (∀ {α : Type} (parser : Parser τ Out α), parser.RuleFree →
      ∀ site memory cursor, ∃ reply, ∀ depth,
        rules.run depth parser site memory cursor = some reply) := by
  constructor
  · intro guarded α parser site memory cursor
    have ends := parser.endsBelow_reading (rules.forward_readingAt _)
      (guarded.endsBelow_readingAt (cursor.remainingLength + 1))
    obtain ⟨reply, replies⟩ := run_of_endsBelow ends site memory (Nat.lt_succ_self _)
    exact ⟨reply, fun depth deep => rules.run_of_le deep replies⟩
  · intro α parser free site memory cursor
    have ends : (rules.reading 0 parser).EndsBelow (cursor.remainingLength + 1) := by
      refine Parser.endsBelow_reading_of_rulesBehind 0 (rules.forward_readingAt 0)
        ?_ ?_ parser free
      · intro name cursor near
        exact absurd near (Nat.not_lt_zero _)
      · intro β guard cursor found impossible
        exact impossible.elim
    obtain ⟨reply, replies⟩ := run_of_endsBelow ends site memory (Nat.lt_succ_self _)
    exact ⟨reply, fun depth => rules.run_of_le (Nat.zero_le depth) replies⟩

/-- Looks for the end, or for nothing any number of times. -/
def idle : Parser Char (fun _ : Unit => Nat) Unit :=
  .choice .eof (.map none (fun _ => ()) (.many (.pure ())))

/-- The rule for brackets stands behind an opening bracket. On two tokens it needs no
more than a depth of three, even if it is repeated; and what has no rules needs no
depth. -/
theorem run_ends_brackets :
    brackets.Guarded ∧ idle.RuleFree ∧
      (∃ reply, ∀ depth, 3 ≤ depth →
        brackets.run depth (.many (.rule ())) [] .blank (.start ⟨0, #['[', '[']⟩) =
          some reply) ∧
      ∃ reply, ∀ depth,
        brackets.run depth idle [] .blank (.start ⟨0, #['[', '[']⟩) = some reply := by
  have guarded : brackets.Guarded := by
    intro name
    exact ⟨⟨⟨trivial, .inl (brackets.advances_satisfy _ _ _)⟩, .inr trivial⟩, trivial⟩
  have free : idle.RuleFree := ⟨trivial, trivial⟩
  have ends := brackets.run_ends
  exact ⟨guarded, free, ends.1 guarded (.many (.rule ())) [] .blank (.start ⟨0, #['[', '[']⟩),
    ends.2 idle free [] .blank _⟩

end Rules

end Descent
