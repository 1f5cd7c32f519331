import Descent.Proofs.Alternation
import Descent.Proofs.Equivalence

/-!
# Choices that come to the same

A choice goes back to where it started, and of two failures it reports the one that got further.
Two laws follow, on which rests how choices are rewritten.

Where both alternatives begin with the same parser, this may be read once, in front of a choice
between what follows. Its own failure is reported either way, since of one failure met twice it
does not matter which is picked; and behind its success the failures of the alternatives are
compared as they would have been.

An alternative that fails where it started has got no further than any other, for none fails in
front of its start. So the failures of those behind it are reported as if it were not there, and
it may be left out.
-/

namespace Descent

namespace ParseError

variable {τ : Type}

theorem furthest_self (error : ParseError τ) : error.furthest error = error :=
  furthest_of_le (Nat.le_refl _)

/-- A failure at a cursor is never picked in front of one at that cursor or behind it. -/
theorem furthest_of_leadsTo {error other : ParseError τ}
    (leads : error.remainder.LeadsTo other.remainder) : error.furthest other = other :=
  furthest_of_le leads.remainingLength_le

end ParseError

namespace Reading

variable {τ α β γ : Type}

/-! ## A common part in front -/

/-- A parser in front of both alternatives may be read before the choice is made. -/
theorem choice_flatMap (reading : Reading τ α) (first second : α → Reading τ β) :
    choice (reading.flatMap first) (reading.flatMap second) =
      reading.flatMap fun output => choice (first output) (second output) := by
  funext cursor
  simp only [choice, flatMap, andThen]
  cases reading cursor with
  | none => rfl
  | some outcome =>
      cases outcome with
      | error error => simp only [ParseError.furthest_self]
      | ok found => rfl

/-- The output may be changed behind a choice or in both alternatives. -/
theorem choice_map (first second : Reading τ α) (function : α → β) :
    choice (first.map function) (second.map function) = (choice first second).map function := by
  funext cursor
  simp only [choice, map, andThen]
  cases first cursor with
  | none => rfl
  | some outcome =>
      cases outcome with
      | ok found => rfl
      | error error =>
          cases second cursor with
          | none => rfl
          | some outcome => cases outcome <;> rfl

theorem choice_sequence (combine : α → β → γ) (reading : Reading τ α)
    (first second : Reading τ β) :
    choice (sequence combine reading first) (sequence combine reading second) =
      sequence combine reading (choice first second) := by
  simp only [sequence, choice_flatMap, choice_map]

/-! ## Failures at the start -/

/-- Behind an alternative that fails at the start, the other one decides alone. -/
theorem choice_of_error_here {first second : Reading τ α} (forward : second.Forward)
    {cursor : Cursor τ} {error : ParseError τ} (failed : first cursor = some (.error error))
    (here : error.remainder = cursor) : choice first second cursor = second cursor := by
  simp only [choice, failed]
  cases read : second cursor with
  | none => rfl
  | some outcome =>
      cases outcome with
      | ok found => rfl
      | error other =>
          have leads : cursor.LeadsTo other.remainder := forward _ _ read
          rw [← here] at leads
          simp only [ParseError.furthest_of_leadsTo leads]

/-- The reading fails at its start only. -/
def FailsAtOnce (reading : Reading τ α) : Prop :=
  ∀ cursor error, reading cursor = some (.error error) → error.remainder = cursor

namespace FailsAtOnce

theorem fail (cause : Cause) : (Reading.fail (τ := τ) (α := α) cause).FailsAtOnce := by
  intro cursor error failed
  cases failed
  rfl

theorem satisfy [Token τ] (expected : String) (accepts : τ → Bool) :
    (Reading.satisfy expected accepts).FailsAtOnce := by
  intro cursor error failed
  simp only [Reading.satisfy] at failed
  split at failed
  · cases failed
    exact ParseError.remainder_unexpected cursor expected
  · split at failed
    · cases failed
    · cases failed
      exact ParseError.remainder_unexpected cursor expected

theorem tokens [Token τ] (run : List τ) : (Reading.tokens run).FailsAtOnce := by
  intro cursor error failed
  simp only [Reading.tokens] at failed
  split at failed
  · cases failed
  · cases failed
    rfl

theorem eof [Token τ] : (Reading.eof (τ := τ)).FailsAtOnce := by
  intro cursor error failed
  simp only [Reading.eof] at failed
  split at failed
  · cases failed
  · cases failed
    exact ParseError.remainder_unexpected cursor endOfInput

theorem map {reading : Reading τ α} (atOnce : reading.FailsAtOnce) (function : α → β) :
    (reading.map function).FailsAtOnce := by
  intro cursor error failed
  exact atOnce cursor error (map_eq_error.mp failed)

theorem choice {first second : Reading τ α} (atOnce : first.FailsAtOnce)
    (otherAtOnce : second.FailsAtOnce) : (Reading.choice first second).FailsAtOnce := by
  intro cursor error failed
  rcases choice_eq_some failed with ⟨_, _, impossible⟩ | ⟨error, ended, others⟩
  · cases impossible
  rcases others with ⟨_, _, impossible⟩ | ⟨other, otherEnded, same⟩
  · cases impossible
  · cases same
    rcases error.furthest_eq_or other with picked | picked
    · rw [picked]
      exact atOnce cursor error ended
    · rw [picked]
      exact otherAtOnce cursor other otherEnded

/-- Bounds that make no sense are found out before anything is read. -/
theorem count {bounds : Bounds} {cause : Cause} (refused : bounds.quota = .error cause)
    (collector : Collector α γ) (reading : Reading τ α) :
    (Reading.count bounds collector reading).FailsAtOnce := by
  intro cursor error failed
  simp only [Reading.count, refused] at failed
  cases failed
  rfl

end FailsAtOnce

end Reading

/-! ## Parsers that fail at their start -/

variable {τ ρ : Type} {Out : ρ → Type} {α β : Type}

/-- The parser cannot fail but where it started, as its form shows: it reads a token or a run of
them, it asks for the end of input, it fails in any case or by its bounds, or it is a choice of
such parsers. -/
inductive Parser.Immediate : {α : Type} → Parser τ Out α → Prop where
  | satisfy (note : Option String) (expected : String) (accepts : τ → Bool) :
      Immediate (.satisfy note expected accepts)
  | tokens (run : List τ) : Immediate (.tokens run)
  | eof : Immediate .eof
  | fail {α : Type} (expected actual : String) : Immediate (.fail (α := α) expected actual)
  | map {α β : Type} (note : Option String) (function : α → β) {parser : Parser τ Out α}
      (immediate : Immediate parser) : Immediate (.map note function parser)
  | choice {α : Type} {first second : Parser τ Out α} (immediate : Immediate first)
      (otherImmediate : Immediate second) : Immediate (.choice first second)
  | count {α γ : Type} {bounds : Bounds} {cause : Cause} (refused : bounds.quota = .error cause)
      (collector : Collector α γ) (parser : Parser τ Out α) :
      Immediate (.count bounds collector parser)

theorem Parser.immediate_string (text : String) :
    (string text : Parser Char Out String).Immediate :=
  .map none _ (.tokens text.toList)

/-- The alternatives from first to last. -/
def Alternatives.parsers : Alternatives τ Out α → List (Parser τ Out α)
  | .single parser => [parser]
  | .pair first second => first.parsers ++ second.parsers

theorem Alternatives.parsers_ne_nil (tree : Alternatives τ Out α) : tree.parsers ≠ [] := by
  induction tree with
  | single parser => exact List.cons_ne_nil _ _
  | pair first second firstIH secondIH => exact List.append_ne_nil_of_left_ne_nil firstIH _

variable [Token τ]

theorem Parser.Immediate.failsAtOnce {parser : Parser τ Out α} (immediate : parser.Immediate)
    (rules : Rules τ Out) (depth : Nat) : (rules.reading depth parser).FailsAtOnce := by
  induction immediate with
  | satisfy note expected accepts => exact .satisfy expected accepts
  | tokens run => exact .tokens run
  | eof => exact .eof
  | fail expected actual => exact .fail _
  | map note function immediate ih => exact ih.map function
  | choice immediate otherImmediate ih otherIH => exact ih.choice otherIH
  | count refused collector parser => exact .count refused collector _

namespace Rules

variable {rules : Rules τ Out} {cursor : Cursor τ} {outcome : Outcome τ α}

/-- A parser ends as another one does that is read alike from some depth on. -/
theorem Ends.congr {first second : Parser τ Out α} {depth : Nat}
    (ends : rules.Ends first cursor outcome)
    (alike : ∀ deeper, depth ≤ deeper →
      rules.reading deeper first cursor = rules.reading deeper second cursor) :
    rules.Ends second cursor outcome := by
  obtain ⟨least, read⟩ := ends.reading_eq
  rw [ends_iff_reading]
  refine ⟨max depth least, ?_⟩
  rw [← alike _ (Nat.le_max_left _ _)]
  exact read _ (Nat.le_max_right _ _)

/-! ## A common part in front -/

/-- Two sequences that begin alike are one sequence with a choice at its end. -/
theorem equivalent_choice_sequence {γ : Type} (firstNote secondNote note : Option String)
    (combine : α → β → γ) (common : Parser τ Out α) (first second : Parser τ Out β) :
    rules.Equivalent
      (.choice (.sequence firstNote combine common first)
        (.sequence secondNote combine common second))
      (.sequence note combine common (.choice first second)) :=
  equivalent_iff_reading.mpr fun _ => Reading.choice_sequence combine _ _ _

/-- Of alternatives that begin with the same parser this parser may be taken out, so that it is
read once and the choice is made behind it. The two ways to write them down do the same from every
cursor, with the same outputs and with the same failures: those of the common parser, and of the
alternatives behind it the failure that got further, or the second one. This holds whether both
outputs are kept, one of them, or what the first makes of the second, and also if the alternatives
are chosen by the output of the common parser. -/
theorem equivalent_factored (rules : Rules τ Out) :
    (∀ {α β : Type} (common : Parser τ Out α) (first second : Parser τ Out β),
      rules.Equivalent (.choice (.both common first) (.both common second))
          (.both common (.choice first second)) ∧
        rules.Equivalent (.choice (.discardLeft common first) (.discardLeft common second))
          (.discardLeft common (.choice first second)) ∧
        rules.Equivalent (.choice (.discardRight common first) (.discardRight common second))
          (.discardRight common (.choice first second))) ∧
    (∀ {α β : Type} (common : Parser τ Out (α → β)) (first second : Parser τ Out α),
      rules.Equivalent (.choice (.apply common first) (.apply common second))
        (.apply common (.choice first second))) ∧
    ∀ {α β : Type} (firstNote secondNote note : Option String) (common : Parser τ Out α)
      (first second : α → Parser τ Out β),
      rules.Equivalent
        (.choice (.flatMap firstNote first common) (.flatMap secondNote second common))
        (.flatMap note (fun output => .choice (first output) (second output)) common) := by
  refine ⟨?sequences, ?applications, ?chosen⟩
  case sequences =>
    intro α β common first second
    exact ⟨equivalent_choice_sequence none none none Prod.mk common first second,
      equivalent_choice_sequence none none none (fun _ output => output) common first second,
      equivalent_choice_sequence none none none (fun output _ => output) common first second⟩
  case applications =>
    intro α β common first second
    exact equivalent_choice_sequence none none none (fun function => function) common first second
  case chosen =>
    intro α β firstNote secondNote note common first second
    exact equivalent_iff_reading.mpr fun _ => Reading.choice_flatMap _ _ _

/-! ## Alternatives that fail at once -/

/-- The parser fails at this cursor, and has got no further than that. -/
def FailsAt (rules : Rules τ Out) {α : Type} (parser : Parser τ Out α) (cursor : Cursor τ) : Prop :=
  ∃ error, rules.Ends parser cursor (.error error) ∧ error.remainder = cursor

/-- An alternative that fails at the start may be left out. -/
theorem FailsAt.ends_choice_iff {first : Parser τ Out α} (fails : rules.FailsAt first cursor)
    (second : Parser τ Out α) :
    rules.Ends (.choice first second) cursor outcome ↔ rules.Ends second cursor outcome := by
  obtain ⟨error, ends, here⟩ := fails
  obtain ⟨depth, failed⟩ := ends.reading_eq
  have alike deeper (deep : depth ≤ deeper) :
      rules.reading deeper (.choice first second) cursor = rules.reading deeper second cursor :=
    Reading.choice_of_error_here (rules.forward_reading deeper second) (failed deeper deep) here
  exact ⟨fun chosen => chosen.congr alike,
    fun decides => decides.congr fun deeper deep => (alike deeper deep).symm⟩

theorem FailsAt.choice {first second : Parser τ Out α} (fails : rules.FailsAt first cursor)
    (otherFails : rules.FailsAt second cursor) : rules.FailsAt (.choice first second) cursor := by
  obtain ⟨error, ends, here⟩ := otherFails
  exact ⟨error, (fails.ends_choice_iff second).mpr ends, here⟩

theorem FailsAt.of_immediate {parser : Parser τ Out α} (immediate : parser.Immediate)
    {error : ParseError τ} (ends : rules.Ends parser cursor (.error error)) :
    rules.FailsAt parser cursor := by
  obtain ⟨depth, read⟩ := ends_iff_reading.mp ends
  exact ⟨error, ends, immediate.failsAtOnce rules depth cursor error read⟩

end Rules

namespace Alternatives

variable {rules : Rules τ Out} {cursor : Cursor τ} {outcome : Outcome τ α}

/-- Alternatives that all fail at the start fail there together. -/
theorem failsAt (tree : Alternatives τ Out α)
    (fails : ∀ parser ∈ tree.parsers, rules.FailsAt parser cursor) :
    rules.FailsAt tree.parser cursor := by
  induction tree with
  | single parser => exact fails parser (List.mem_singleton.mpr rfl)
  | pair first second firstIH secondIH =>
      exact .choice (firstIH fun parser member => fails parser (List.mem_append_left _ member))
        (secondIH fun parser member => fails parser (List.mem_append_right _ member))

/-- If all alternatives but the last one fail at the start, the last one decides alone. -/
theorem ends_last_iff {tree : Alternatives τ Out α} {front : List (Parser τ Out α)}
    {last : Parser τ Out α} (split : tree.parsers = front ++ [last])
    (fails : ∀ parser ∈ front, rules.FailsAt parser cursor) :
    rules.Ends tree.parser cursor outcome ↔ rules.Ends last cursor outcome := by
  induction tree generalizing front with
  | single parser =>
      have split : [] ++ [parser] = front ++ [last] := split
      obtain ⟨_, same⟩ := List.append_inj' split rfl
      cases same
      exact Iff.rfl
  | pair first second firstIH secondIH =>
      -- The last alternative of all is the last one on the right, so all on the left fail.
      obtain ⟨others, other, secondSplit⟩ :=
        (List.eq_nil_or_concat second.parsers).resolve_left second.parsers_ne_nil
      rw [parsers, secondSplit, List.concat_eq_append, ← List.append_assoc] at split
      obtain ⟨rfl, same⟩ := List.append_inj' split rfl
      cases same
      have firstFails : rules.FailsAt first.parser cursor :=
        first.failsAt fun parser member => fails parser (List.mem_append_left _ member)
      exact (firstFails.ends_choice_iff second.parser).trans
        (secondIH (secondSplit.trans List.concat_eq_append) fun parser member =>
          fails parser (List.mem_append_right _ member))

end Alternatives

namespace Rules

/-- An alternative that fails at the start of a choice changes nothing: without it the parser
behind it ends in the same way, with the same output and at the same place or with the same
failure, of whatever kind the two failures are. So any number of such alternatives may stand in
front of a parser, put together in any form. Single tokens and runs of them, the end of input,
failures, bounds that make no sense, and choices of these fail at the start if they fail. -/
theorem ends_behind_failures (rules : Rules τ Out) (last : Parser τ Out α) (cursor : Cursor τ) :
    (∀ first, rules.FailsAt first cursor → ∀ outcome,
      rules.Ends (.choice first last) cursor outcome ↔ rules.Ends last cursor outcome) ∧
    (∀ (tree : Alternatives τ Out α) (front : List (Parser τ Out α)),
      tree.parsers = front ++ [last] → (∀ parser ∈ front, rules.FailsAt parser cursor) →
      ∀ outcome, rules.Ends tree.parser cursor outcome ↔ rules.Ends last cursor outcome) ∧
    ∀ first : Parser τ Out α, first.Immediate → ∀ error,
      rules.Ends first cursor (.error error) → rules.FailsAt first cursor := by
  refine ⟨?one, ?many, ?immediate⟩
  case one =>
    intro first fails outcome
    exact fails.ends_choice_iff last
  case many =>
    intro tree front split fails outcome
    exact Alternatives.ends_last_iff split fails
  case immediate =>
    intro first immediate error ends
    exact .of_immediate immediate ends

/-- A bracket that is not closed. -/
def opened : Source Char := ⟨0, #['[', '.']⟩

/-- Alternatives for brackets that are of no use. -/
def useless : List (Parser Char (fun _ : Unit => Nat) Nat) :=
  [.fail "nothing" "something", .map none String.length (.string "()"),
    .count ⟨-1, none⟩ ⟨0, Nat.add⟩ (.rule ())]

/-- Brackets behind these alternatives, put together in some form. -/
def misled : Alternatives Char (fun _ : Unit => Nat) Nat :=
  .pair (.single useless[0])
    (.pair (.pair (.single useless[1]) (.single useless[2])) (.single (.rule ())))

/-- It is still reported that the bracket is not closed, though the alternative in front of it
had asked for something impossible. -/
theorem ends_behind_failures_opened :
    misled.parsers = useless ++ [.rule ()] ∧
    (∀ parser ∈ useless, brackets.FailsAt parser (.start opened)) ∧
    brackets.Ends misled.parser (.start opened)
      (.error (.mismatch ⟨opened, 2, by decide⟩ "]" "EOF")) := by
  have failing : ∀ parser ∈ useless, parser.Immediate ∧
      ∃ error, brackets.Ends parser (.start opened) (.error error) := by
    intro parser member
    simp only [useless, List.mem_cons, List.not_mem_nil, or_false] at member
    rcases member with rfl | rfl | rfl
    · exact ⟨.fail _ _, _, ends_iff_reading.mpr ⟨0, rfl⟩⟩
    · exact ⟨.map _ _ (Parser.immediate_string "()"), _, ends_iff_reading.mpr ⟨0, rfl⟩⟩
    · exact ⟨.count rfl _ _, _, ends_iff_reading.mpr ⟨0, rfl⟩⟩
  have fails : ∀ parser ∈ useless, brackets.FailsAt parser (.start opened) := by
    intro parser member
    obtain ⟨_, _, atOnce⟩ := ends_behind_failures brackets (.rule ()) (.start opened)
    obtain ⟨immediate, error, ends⟩ := failing parser member
    exact atOnce parser immediate error ends
  obtain ⟨_, decides, _⟩ := ends_behind_failures brackets (.rule ()) (.start opened)
  exact ⟨rfl, fails, (decides misled useless rfl fails _).mpr (ends_iff_reading.mpr ⟨3, rfl⟩)⟩

end Rules

end Descent
