import Descent.Proofs.Failures
import Descent.Proofs.Locality
import Descent.Proofs.Tokens

/-!
# What failures say about the input

A mismatch says in words what was found in place of what was wanted. The words are made
where the mismatch is noticed, together with the place, and from then on both go through
whatever surrounds the parser: choices pick one of two mismatches, loops end with one or hand
it on. A parser that fails on purpose may say what it likes. All others say what stands at
that very place, and if nothing stands there, that the input has ended.
-/

namespace Descent

variable {τ : Type} [Token τ]

/-- What the error says was found stands in the input where the error was noticed: some of
the tokens that are left there, from the first one on, or the end of input. -/
structure ParseError.ShowsInput (error : ParseError τ) : Prop where
  ended : error.remainder.atEnd = true → error.actual = endOfInput
  within : error.remainder.atEnd = false → ∃ window, window ≠ [] ∧
    window <+: error.remainder.remaining ∧ error.actual = Token.describeAll window

/-- The next tokens in words, as many as asked for or as there are. -/
def Cursor.shown (cursor : Cursor τ) (count : Nat) : String :=
  if (cursor.window count).isEmpty then endOfInput
  else Token.describeAll (cursor.window count)

namespace ParseError

/-- However few tokens are left, the next ones show the input, if any are asked for. -/
theorem showsInput_mismatch (cursor : Cursor τ) (expected : String) {count : Nat}
    (positive : 0 < count) :
    (ParseError.mismatch cursor expected (cursor.shown count)).ShowsInput where
  ended := by
    intro ended
    have nothing : cursor.remaining = [] := Cursor.atEnd_iff_remaining.mp ended
    have window : cursor.window count = [] := by
      rw [cursor.window_eq_take, nothing, List.take_nil]
    show cursor.shown count = endOfInput
    simp [Cursor.shown, window]
  within := by
    intro more
    have left : cursor.remaining ≠ [] := by
      intro nothing
      have ended : cursor.atEnd = true := Cursor.atEnd_iff_remaining.mpr nothing
      rw [mismatch, ended] at more
      cases more
    have something : cursor.window count ≠ [] := by
      rw [cursor.window_eq_take, Ne, List.take_eq_nil_iff]
      rintro (none | nothing)
      · exact Nat.ne_of_gt positive none
      · exact left nothing
    refine ⟨cursor.window count, something, ?_, ?_⟩
    · rw [cursor.window_eq_take]
      exact List.take_prefix _ _
    · show cursor.shown count = _
      simp [Cursor.shown, something]

/-- A token that is not wanted is shown as a run of one token would be. -/
theorem unexpected_eq
    (single : ∀ token : τ, Token.describe token = Token.describeAll [token])
    (cursor : Cursor τ) (expected : String) :
    ParseError.unexpected cursor expected = .mismatch cursor expected (cursor.shown 1) := by
  rw [unexpected, cursor.peek_eq, Cursor.shown, cursor.window_eq_take]
  cases cursor.remaining with
  | nil => rfl
  | cons token rest => simp [single token]

end ParseError

namespace Reading

/-- Mismatches show the input where they are noticed. -/
def Faithful {α : Type} (reading : Reading τ α) : Prop :=
  reading.FailsAs fun error => error.isRecoverable = true → error.ShowsInput

namespace Faithful

theorem satisfy (single : ∀ token : τ, Token.describe token = Token.describeAll [token])
    (expected : String) (accepts : τ → Bool) : (Reading.satisfy expected accepts).Faithful := by
  intro cursor error failed _
  rw [(satisfy_eq_error.mp failed).2, ParseError.unexpected_eq single]
  exact ParseError.showsInput_mismatch cursor expected Nat.one_pos

/-- A run of no tokens stands everywhere, so at least one token is asked for where a run is
missed. -/
theorem tokens (run : List τ) : (Reading.tokens run).Faithful := by
  intro cursor error failed _
  simp only [Reading.tokens] at failed
  split at failed
  · cases failed
  · next differs =>
      cases failed
      apply ParseError.showsInput_mismatch cursor _ (List.length_pos_iff.mpr _)
      intro empty
      subst empty
      rw [cursor.window_eq_take] at differs
      exact differs rfl

theorem eof (single : ∀ token : τ, Token.describe token = Token.describeAll [token]) :
    (Reading.eof (τ := τ)).Faithful := by
  intro cursor error failed _
  simp only [Reading.eof] at failed
  split at failed
  · cases failed
  · cases failed
    rw [ParseError.unexpected_eq single]
    exact ParseError.showsInput_mismatch cursor endOfInput Nat.one_pos

end Faithful

end Reading

/-! ## Parsers -/

variable {ρ : Type} {Out : ρ → Type} {α : Type}

/-- Nothing in the parser fails on purpose, and neither does anything that a binder in it
may choose. -/
def Parser.FailFree : {α : Type} → Parser τ Out α → Prop
  | _, .satisfy _ _ _ => True
  | _, .tokens _ => True
  | _, .eof => True
  | _, .pure _ => True
  | _, .fail _ _ => False
  | _, .map _ _ parser => FailFree parser
  | _, .flatMap _ binder parser => FailFree parser ∧ ∀ output, FailFree (binder output)
  | _, .sequence _ _ first second => FailFree first ∧ FailFree second
  | _, .twice parser => FailFree parser
  | _, .choice first second => FailFree first ∧ FailFree second
  | _, .zeroOrMore _ parser => FailFree parser
  | _, .oneOrMore _ parser => FailFree parser
  | _, .count _ _ parser => FailFree parser
  | _, .delayed _ parser => FailFree parser
  | _, .rule _ => True
  | _, .tap _ parser => FailFree parser

/-- Nothing in the bodies of the rules fails on purpose. -/
def Rules.FailFree (rules : Rules τ Out) : Prop :=
  ∀ name, (rules.body name).FailFree

theorem Parser.faithful_reading
    (single : ∀ token : τ, Token.describe token = Token.describeAll [token])
    {enter : (name : ρ) → Reading τ (Out name)} (faithful : ∀ name, (enter name).Faithful)
    (parser : Parser τ Out α) (failFree : parser.FailFree) :
    (parser.reading enter).Faithful := by
  have standstill (cursor : Cursor τ) :
      (ParseError.mk cursor .noProgress).isRecoverable = true →
        (ParseError.mk cursor .noProgress).ShowsInput := by
    intro impossible
    cases impossible
  induction parser with
  | satisfy note expected accepts => exact .satisfy single expected accepts
  | tokens run => exact .tokens run
  | eof => exact .eof single
  | pure value => exact .pure value
  | fail expected actual => exact failFree.elim
  | map note function parser ih => exact .map (ih failFree) function
  | flatMap note binder parser binderIH parserIH =>
      apply Reading.FailsAs.flatMap (parserIH failFree.1)
      intro output
      exact binderIH output (failFree.2 output)
  | sequence note combine first second firstIH secondIH =>
      exact .sequence (firstIH failFree.1) (secondIH failFree.2) combine
  | twice parser ih => exact .sequence (ih failFree) (ih failFree) Prod.mk
  | choice first second firstIH secondIH =>
      exact .choice (firstIH failFree.1) (secondIH failFree.2)
  | zeroOrMore collector parser ih => exact .zeroOrMore (ih failFree) standstill collector
  | oneOrMore collector parser ih => exact .oneOrMore (ih failFree) standstill collector
  | count bounds collector parser ih =>
      apply Reading.FailsAs.count (ih failFree) standstill
      intro cause refused cursor recoverable
      rw [Bounds.isRecoverable_of_quota refused cursor] at recoverable
      cases recoverable
  | delayed name parser ih => exact ih failFree
  | rule name => exact faithful name
  | tap name parser ih => exact ih failFree

namespace Rules

theorem FailFree.faithful_readingAt {rules : Rules τ Out} (failFree : rules.FailFree)
    (single : ∀ token : τ, Token.describe token = Token.describeAll [token])
    (depth : Nat) (name : ρ) : (rules.readingAt depth name).Faithful := by
  induction depth generalizing name with
  | zero =>
      intro cursor error failed
      cases failed
  | succ depth inductionHypothesis =>
      exact (rules.body name).faithful_reading single inductionHypothesis (failFree name)

/-- If nothing in a grammar fails on purpose, then whatever mismatch comes out of it, on
whichever way, shows the input at the place that it reports. -/
theorem showsInput_of_run (rules : Rules τ Out) (failFree : rules.FailFree)
    (single : ∀ token : τ, Token.describe token = Token.describeAll [token])
    {parser : Parser τ Out α} (parserFailFree : parser.FailFree) (depth : Nat) :
    (∀ site memory cursor reply error expected actual,
      rules.run depth parser site memory cursor = some reply → reply.outcome = .error error →
      error.cause = .mismatch expected actual → error.ShowsInput) ∧
    ∀ source reply error expected actual,
      rules.parse depth parser source = some reply → reply.outcome = .error error →
      error.cause = .mismatch expected actual → error.ShowsInput := by
  have shows {β : Type} {parser : Parser τ Out β} (parserFailFree : parser.FailFree) :
      ∀ site memory cursor reply error expected actual,
        rules.run depth parser site memory cursor = some reply →
        reply.outcome = .error error → error.cause = .mismatch expected actual →
        error.ShowsInput := by
    intro site memory cursor reply error expected actual replies failed cause
    have faithful : (rules.reading depth parser).Faithful :=
      parser.faithful_reading single (failFree.faithful_readingAt single depth) parserFailFree
    have read := reading_of_run replies
    rw [failed] at read
    exact faithful cursor error read (ParseError.isRecoverable_iff.mpr ⟨_, _, cause⟩)
  constructor
  · exact shows parserFailFree
  · intro source
    have complete : parser.complete.FailFree := ⟨parserFailFree, trivial⟩
    exact shows complete [] .blank (.start source)

/-- Where a longer word should stand behind brackets, all that is left is shown. -/
theorem showsInput_of_run_brackets :
    ∃ reply error,
      brackets.run 3 (.both (.rule ()) (.tokens ['e', 'n', 'd'])) [] .blank
        (.start ⟨0, #['[', '.', ']', 'e', 'n']⟩) = some reply ∧
      reply.outcome = .error error ∧ error.position = 3 ∧ error.actual = "en" ∧
      error.ShowsInput := by
  have summary : (brackets.run 3 (.both (.rule ()) (.tokens ['e', 'n', 'd'])) [] .blank
      (.start ⟨0, #['[', '.', ']', 'e', 'n']⟩)).bind (fun reply =>
        match reply.outcome with
        | .ok _ => none
        | .error error => some (error.position, error.actual, error.isRecoverable)) =
      some (3, "en", true) := by decide +kernel
  obtain ⟨reply, replies, seen⟩ := Option.bind_eq_some_iff.mp summary
  cases failed : reply.outcome with
  | ok found =>
      rw [failed] at seen
      cases seen
  | error error =>
      rw [failed, Option.some.injEq, Prod.mk.injEq, Prod.mk.injEq] at seen
      have failFree : brackets.FailFree := by
        intro name
        exact ⟨⟨⟨trivial, trivial⟩, trivial⟩, trivial⟩
      have parserFailFree : (Parser.both (.rule ()) (.tokens ['e', 'n', 'd']) :
          Parser Char (fun _ : Unit => Nat) _).FailFree := ⟨trivial, trivial⟩
      obtain ⟨shows, _⟩ := brackets.showsInput_of_run failFree (fun _ => rfl) parserFailFree 3
      obtain ⟨expected, actual, cause⟩ := ParseError.isRecoverable_iff.mp seen.2.2
      exact ⟨reply, error, replies, failed, seen.1, seen.2.1,
        shows _ _ _ reply error expected actual replies failed cause⟩

end Rules

end Descent
