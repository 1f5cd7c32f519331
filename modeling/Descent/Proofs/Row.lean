import Descent.Proofs.Ending
import Descent.Proofs.Loops

/-!
# Matches of a parser in a row

What a repetition reads is a row of matches of one parser, each of which starts where the one
before it ended. A row that has come to a place is all that led there: two rows from one start
agree as far as both go. A parser that ends everywhere has a row from each place that comes to
where the parser does not get on.

Runs of a repetition are nested at one depth, and the matches of a row each at their own. The
two meet here: what a loop takes at some depth is a row, and a row is taken by every loop that
is nested deep enough.
-/

namespace Descent.Rules

open Attempt (Loop)

variable {τ ρ : Type} [Token τ] {Out : ρ → Type} {α γ : Type}

/-- One match of the parser behind the other, from a first place to a last one. -/
inductive Row (rules : Rules τ Out) {α : Type} (parser : Parser τ Out α) :
    Cursor τ → List (Match τ α) → Cursor τ → Prop where
  | nil (cursor : Cursor τ) : Row rules parser cursor [] cursor
  | cons {cursor last : Cursor τ} {found : Match τ α} {row : List (Match τ α)}
      (ends : rules.Ends parser cursor (.ok found))
      (more : Row rules parser found.rest row last) :
      Row rules parser cursor (found :: row) last

/-- The parser does not get on from this place: it fails there, or it matches nothing. -/
def Stays (rules : Rules τ Out) (parser : Parser τ Out α) (cursor : Cursor τ) : Prop :=
  ∃ outcome, rules.Ends parser cursor outcome ∧
    ∀ found, outcome = .ok found → found.rest = cursor

/-- No run of the parser logs a visit with this label. -/
def Silent (rules : Rules τ Out) (label : String) (parser : Parser τ Out α) : Prop :=
  ∀ depth site memory cursor reply,
    rules.run depth parser site memory cursor = some reply → reply.log.visits label = []

variable {rules : Rules τ Out} {parser : Parser τ Out α} {cursor middle last : Cursor τ}
variable {row others : List (Match τ α)} {depth : Nat}

theorem forward_run (rules : Rules τ Out) (depth : Nat) (parser : Parser τ Out α) :
    (rules.run depth parser).Forward := by
  intro site memory cursor reply replies
  exact rules.forward_reading depth parser _ _ (reading_of_run replies)

/-- A tap shows each run of the parser below it, and it alone if that is silent. -/
theorem Silent.tapped {label : String} (silent : rules.Silent label parser) (depth : Nat) :
    (rules.run depth (.tap label parser)).Tapped label := by
  intro site memory cursor reply replies
  obtain ⟨inner, innerReplies, same⟩ := Option.bind_eq_some_iff.mp replies
  cases same
  rw [Reply.log_after, Log.visits_append, silent depth site memory cursor inner innerReplies]
  simp [Log.visits]

namespace Row

theorem last_eq (matched : rules.Row parser cursor row last) :
    last = Match.behind cursor row := by
  induction matched with
  | nil cursor => rfl
  | cons ends more inductionHypothesis => exact inductionHypothesis

theorem append (matched : rules.Row parser cursor row middle)
    (more : rules.Row parser middle others last) :
    rules.Row parser cursor (row ++ others) last := by
  induction matched with
  | nil cursor => exact more
  | cons ends _ inductionHypothesis => exact .cons ends (inductionHypothesis more)

/-- A row may be cut anywhere. -/
theorem split (matched : rules.Row parser cursor (row ++ others) last) :
    rules.Row parser cursor row (Match.behind cursor row) ∧
      rules.Row parser (Match.behind cursor row) others last := by
  induction row generalizing cursor with
  | nil => exact ⟨.nil cursor, matched⟩
  | cons found row inductionHypothesis =>
      cases matched with
      | cons ends more =>
          obtain ⟨front, back⟩ := inductionHypothesis more
          exact ⟨.cons ends front, back⟩

/-- Of two rows from one start, one goes on where the other one stops. -/
theorem eq_append_or {other : List (Match τ α)} {otherLast : Cursor τ}
    (matched : rules.Row parser cursor row last)
    (otherMatched : rules.Row parser cursor other otherLast) :
    (∃ more, other = row ++ more) ∨ ∃ more, row = other ++ more := by
  induction matched generalizing other with
  | nil cursor => exact .inl ⟨other, rfl⟩
  | @cons cursor last found row ends more inductionHypothesis =>
      cases otherMatched with
      | nil => exact .inr ⟨found :: row, rfl⟩
      | cons otherEnds otherMore =>
          cases ends.unique otherEnds
          rcases inductionHypothesis otherMore with ⟨rest, rfl⟩ | ⟨rest, rfl⟩
          · exact .inl ⟨rest, rfl⟩
          · exact .inr ⟨rest, rfl⟩

theorem tap_iff (label : String) :
    rules.Row (.tap label parser) cursor row last ↔ rules.Row parser cursor row last := by
  constructor
  · intro matched
    induction matched with
    | nil cursor => exact .nil cursor
    | cons ends more inductionHypothesis =>
        exact .cons ((ends_tap label).mp ends) inductionHypothesis
  · intro matched
    induction matched with
    | nil cursor => exact .nil cursor
    | cons ends more inductionHypothesis =>
        exact .cons ((ends_tap label).mpr ends) inductionHypothesis

/-- What a loop takes is a row. -/
theorem of_takes {push : γ → α → γ} {site : Site} {loop final : Loop τ γ}
    (takes : Loop.Takes (rules.run depth parser) push site loop row final) :
    rules.Row parser loop.cursor row final.cursor := by
  induction takes with
  | nil loop => exact .nil loop.cursor
  | cons replies more inductionHypothesis => exact .cons (ends_of_run replies) inductionHypothesis

/-- A row is taken by every loop that is nested deep enough, whatever it has gathered and
remembers. -/
theorem takes (matched : rules.Row parser cursor row last) (push : γ → α → γ) :
    ∃ depth, ∀ deeper, depth ≤ deeper → ∀ site (loop : Loop τ γ), loop.cursor = cursor →
      ∃ final, Loop.Takes (rules.run deeper parser) push site loop row final := by
  induction matched with
  | nil cursor => exact ⟨0, fun _ _ site loop _ => ⟨loop, .nil loop⟩⟩
  | @cons cursor last found row ends more inductionHypothesis =>
      obtain ⟨depth, replies⟩ := ends
      obtain ⟨moreDepth, moreTakes⟩ := inductionHypothesis
      refine ⟨max depth moreDepth, ?_⟩
      rintro deeper deep site loop rfl
      obtain ⟨⟨_, memory, log⟩, answers, rfl⟩ :=
        replies deeper (Nat.le_trans (Nat.le_max_left _ _) deep) site loop.memory
      obtain ⟨final, takes⟩ := moreTakes deeper (Nat.le_trans (Nat.le_max_right _ _) deep) site
        (loop.step push found memory log) rfl
      exact ⟨final, .cons answers takes⟩

end Row

/-! ## Rows that cannot be longer -/

/-- The matches, none of them empty, that lead to a place from where the parser does not get
on. -/
structure Course (rules : Rules τ Out) (parser : Parser τ Out α) (cursor : Cursor τ)
    (row : List (Match τ α)) (last : Cursor τ) : Prop where
  matched : rules.Row parser cursor row last
  moving : Match.Moving (Match.places cursor row)
  stays : rules.Stays parser last

section Total

variable (total : ∀ start, ∃ outcome, rules.Ends parser start outcome)

include total

/-- A parser that ends everywhere moves only so often. -/
theorem exists_course (cursor : Cursor τ) : ∃ row last, rules.Course parser cursor row last := by
  obtain ⟨outcome, ends⟩ := total cursor
  by_cases stays : rules.Stays parser cursor
  · exact ⟨[], cursor, .nil cursor, List.IsChain.singleton _, stays⟩
  · cases outcome with
    | error error => exact absurd ⟨_, ends, nofun⟩ stays
    | ok found =>
        have moved : found.rest ≠ cursor := by
          intro still
          apply stays
          refine ⟨_, ends, ?_⟩
          rintro _ ⟨⟩
          exact still
        have leads : cursor.LeadsTo found.rest := ends.leads
        obtain ⟨row, last, course⟩ := exists_course found.rest
        exact ⟨found :: row, last, .cons ends course.matched,
          Match.moving_cons.mpr ⟨moved, course.moving⟩, course.stays⟩
termination_by cursor.remainingLength
decreasing_by exact leads.remainingLength_lt moved

/-- A parser that ends everywhere matches a given number of times, or fails on the way. -/
theorem exists_row (count : Nat) (cursor : Cursor τ) :
    ∃ row last, rules.Row parser cursor row last ∧ row.length ≤ count ∧
      (row.length < count → ∃ error, rules.Ends parser last (.error error)) := by
  induction count generalizing cursor with
  | zero => exact ⟨[], cursor, .nil cursor, Nat.le_refl 0, nofun⟩
  | succ count inductionHypothesis =>
      obtain ⟨outcome, ends⟩ := total cursor
      cases outcome with
      | error error =>
          exact ⟨[], cursor, .nil cursor, Nat.zero_le _, fun _ => ⟨error, ends⟩⟩
      | ok found =>
          obtain ⟨row, last, matched, within, fails⟩ := inductionHypothesis found.rest
          exact ⟨found :: row, last, .cons ends matched, Nat.succ_le_succ within,
            fun short => fails (Nat.lt_of_succ_lt_succ short)⟩

end Total

end Descent.Rules
