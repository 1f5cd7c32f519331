import Descent.Proofs.Lockstep
import Descent.Proofs.Passage
import Descent.Proofs.Position
import Mathlib.Data.List.Forall2

/-!
# Reading on

What a parser does at a cursor hangs on the tokens from there on and on nothing else: not
on what stands before them, nor on where in which source they stand, nor on where in a
parser value the parser is. Two runs that start with the same tokens left reply alike, and
only the positions that they report are further on in the one than in the other, always by
as much as at the start.
-/

namespace Descent

namespace Cursor

variable {τ : Type}

/-- A text in front of a source moves its tokens and takes nothing from them. -/
theorem remaining_behind (identity other : Nat) (before tokens : List τ) (place : Nat) :
    ((start ⟨other, (before ++ tokens).toArray⟩).advance (before.length + place)).remaining =
      ((start ⟨identity, tokens.toArray⟩).advance place).remaining := by
  have behind : min (0 + (before.length + place)) (before ++ tokens).length =
      before.length + min (0 + place) tokens.length := by
    rw [List.length_append]
    omega
  simp only [remaining_eq, position_advance, length, source_advance, source_start,
    position_start, List.size_toArray, behind]
  rw [← List.drop_drop, List.drop_left]

theorem position_behind (identity other : Nat) (before tokens : List τ) (place : Nat) :
    ((start ⟨other, (before ++ tokens).toArray⟩).advance (before.length + place)).position =
      ((start ⟨identity, tokens.toArray⟩).advance place).position + before.length := by
  simp only [position_advance, length, source_start, position_start, List.size_toArray,
    List.length_append]
  omega

/-- Further on, what is left is what was left before, without what lies between. -/
theorem LeadsTo.remaining_eq {cursor place : Cursor τ} (leads : cursor.LeadsTo place) :
    place.remaining = cursor.remaining.drop (place.position - cursor.position) := by
  rw [place.remaining_eq, cursor.remaining_eq, leads.source, List.drop_drop,
    Nat.add_sub_cancel' leads.position]

/-- A cursor reads on from another one as far as its twin does. -/
structure Follows (near far cursor twin : Cursor τ) : Prop where
  leads : near.LeadsTo cursor
  twinLeads : far.LeadsTo twin
  apart : twin.position + near.position = cursor.position + far.position

namespace Follows

variable {near far cursor twin other otherTwin : Cursor τ}

theorem start (near far : Cursor τ) : Follows near far near far :=
  ⟨.refl near, .refl far, Nat.add_comm _ _⟩

/-- Both cursors have read the same number of tokens. -/
theorem steps_eq (follows : Follows near far cursor twin) :
    twin.position - far.position = cursor.position - near.position := by
  have apart := follows.apart
  have position := follows.leads.position
  have twinPosition := follows.twinLeads.position
  omega

/-- Cursors at the same position are at the same position after reading on equally far. -/
theorem position_eq (follows : Follows near far cursor twin)
    (level : far.position = near.position) : twin.position = cursor.position := by
  have apart := follows.apart
  omega

/-- Where the same tokens are left, they are after reading on equally far. -/
theorem remaining_eq (follows : Follows near far cursor twin)
    (same : far.remaining = near.remaining) : twin.remaining = cursor.remaining := by
  rw [follows.twinLeads.remaining_eq, follows.leads.remaining_eq, same, follows.steps_eq]

/-- Where as much is left, it is after reading on equally far. -/
theorem remainingLength_eq (follows : Follows near far cursor twin)
    (left : far.remainingLength = near.remainingLength) :
    twin.remainingLength = cursor.remainingLength := by
  rw [← length_remaining, ← length_remaining] at left ⊢
  rw [follows.twinLeads.remaining_eq, follows.leads.remaining_eq, List.length_drop,
    List.length_drop, left, follows.steps_eq]

/-- Two places are the same if they are as far on, in both sources alike. -/
theorem beq_eq (follows : Follows near far cursor twin)
    (otherFollows : Follows near far other otherTwin) :
    (twin == otherTwin) = (cursor == other) := by
  have source : cursor.source = other.source :=
    follows.leads.source.trans otherFollows.leads.source.symm
  have twinSource : twin.source = otherTwin.source :=
    follows.twinLeads.source.trans otherFollows.twinLeads.source.symm
  have apart := follows.apart
  have otherApart := otherFollows.apart
  rw [Bool.eq_iff_iff, Cursor.beq_iff, Cursor.beq_iff, source, twinSource]
  simp only [true_and]
  omega

theorem advance (follows : Follows near far cursor twin)
    (left : far.remainingLength = near.remainingLength) (steps : Nat) :
    Follows near far (cursor.advance steps) (twin.advance steps) where
  leads := follows.leads.trans (cursor.leadsTo_advance steps)
  twinLeads := follows.twinLeads.trans (twin.leadsTo_advance steps)
  apart := by
    have left := follows.remainingLength_eq left
    have total := cursor.position_add_remainingLength
    have twinTotal := twin.position_add_remainingLength
    have apart := follows.apart
    rw [position_advance, position_advance]
    omega

end Follows

end Cursor

namespace Correspondence

variable {τ : Type}

/-- Places correspond if they are equally far behind two cursors with the same tokens
left. -/
def onward (near far : Cursor τ) (same : far.remaining = near.remaining) :
    Correspondence τ where
  places := Cursor.Follows near far
  causes cause twin := twin = cause
  remainingLength_eq places := by
    rw [← Cursor.length_remaining, ← Cursor.length_remaining, places.remaining_eq same]
  beq_eq places otherPlaces := places.beq_eq otherPlaces
  causes_self cause := rfl
  isRecoverable_eq := ParseError.isRecoverable_eq_of_cause

/-- The same tokens are left at corresponding places, also after reading on. -/
structure Sees (between : Correspondence τ) : Prop where
  remaining_eq : ∀ {cursor twin}, between.places cursor twin →
    twin.remaining = cursor.remaining
  advance : ∀ {cursor twin} (steps : Nat), between.places cursor twin →
    between.places (cursor.advance steps) (twin.advance steps)

theorem sees_onward {near far : Cursor τ} (same : far.remaining = near.remaining) :
    (onward near far same).Sees where
  remaining_eq places := places.remaining_eq same
  advance steps places := by
    apply places.advance
    rw [← Cursor.length_remaining, ← Cursor.length_remaining, same]

/-- The same failures are described in the same words. -/
theorem Sees.unexpected [Token τ] {α β : Type} {between : Correspondence τ}
    (sees : between.Sees) {values : α → β → Prop} {cursor twin : Cursor τ}
    (places : between.places cursor twin) (expected : String) :
    Outcome.Corresponds between values (.error (.unexpected cursor expected))
      (.error (.unexpected twin expected)) := by
  apply Outcome.Corresponds.error
  · rw [ParseError.remainder_unexpected, ParseError.remainder_unexpected]
    exact places
  · have same : (ParseError.unexpected twin expected).cause =
        (ParseError.unexpected cursor expected).cause := by
      simp only [ParseError.unexpected, Cursor.peek_eq, sees.remaining_eq places]
      cases cursor.remaining.head? <;> rfl
    rw [same]
    exact between.causes_self _

end Correspondence

/-! ## Logs -/

/-- The part that is reached by these turns, the first one first. -/
def Site.below (site : Site) : List Turn → Site
  | [] => site
  | turn :: path => below (turn :: site) path

/-- The entries say the same: of the same part below two sites, or at corresponding
places. -/
inductive Entry.Corresponds {τ : Type} (between : Correspondence τ) (site twinSite : Site) :
    Entry → Entry → Prop where
  | noted (text : String) : Corresponds between site twinSite (.noted text) (.noted text)
  | built (path : List Turn) (label : String) :
      Corresponds between site twinSite (.built (site.below path) label)
        (.built (twinSite.below path) label)
  | visited (label : String) {cursor twin : Cursor τ} (places : between.places cursor twin) :
      Corresponds between site twinSite (.visited label cursor.position)
        (.visited label twin.position)

/-- Entry by entry, two logs say the same. -/
def Log.Corresponds {τ : Type} (between : Correspondence τ) (site twinSite : Site)
    (log twin : Log) : Prop :=
  List.Forall₂ (Entry.Corresponds between site twinSite) log.toList twin.toList

namespace Log.Corresponds

variable {τ : Type} {between : Correspondence τ} {site twinSite : Site}
variable {log twin later laterTwin : Log}

theorem empty : Log.Corresponds between site twinSite #[] #[] := .nil

theorem single {entry entryTwin : Entry}
    (same : Entry.Corresponds between site twinSite entry entryTwin) :
    Log.Corresponds between site twinSite #[entry] #[entryTwin] := .cons same .nil

theorem append (alike : Log.Corresponds between site twinSite log twin)
    (laterAlike : Log.Corresponds between site twinSite later laterTwin) :
    Log.Corresponds between site twinSite (log ++ later) (twin ++ laterTwin) := by
  rw [Log.Corresponds, Array.toList_append, Array.toList_append]
  exact List.rel_append alike laterAlike

/-- What is logged of a part is logged of the whole. -/
theorem outer {turn : Turn}
    (alike : Log.Corresponds between (turn :: site) (turn :: twinSite) log twin) :
    Log.Corresponds between site twinSite log twin := by
  apply List.Forall₂.imp _ alike
  intro entry entryTwin same
  cases same with
  | noted text => exact .noted text
  | built path label => exact .built (turn :: path) label
  | visited label places => exact .visited label places

/-- What can be told of every entry can be told of the log. -/
theorem map_eq {δ : Type} {view twinView : Entry → δ}
    (alike : Log.Corresponds between site twinSite log twin)
    (same : ∀ entry entryTwin, Entry.Corresponds between site twinSite entry entryTwin →
      twinView entryTwin = view entry) :
    twin.toList.map twinView = log.toList.map view := by
  have views : List.Forall₂ Eq (log.toList.map view) (twin.toList.map twinView) := by
    apply List.forall₂_map_left_iff.mpr
    apply List.forall₂_map_right_iff.mpr
    apply List.Forall₂.imp _ alike
    intro entry entryTwin saysSame
    exact (same entry entryTwin saysSame).symm
  rw [List.forall₂_eq_eq_eq] at views
  exact views.symm

end Log.Corresponds

/-- Two runs remember the same and have logged the same. -/
def Stage.parallel {τ : Type} (between : Correspondence τ) (site twinSite : Site) : Stage :=
  fun memory log twinMemory twinLog =>
    twinMemory = memory ∧ log.Corresponds between site twinSite twinLog

theorem Stage.takesNotes_parallel {τ : Type} (between : Correspondence τ)
    (site twinSite : Site) : (Stage.parallel between site twinSite).TakesNotes := by
  intro memory log twinMemory twinLog note stands
  refine ⟨stands.1, stands.2.append ?_⟩
  cases note with
  | none => exact .empty
  | some text => exact .single (.noted text)

/-- What the log shows. -/
def Reply.texts {τ α : Type} (reply : Reply τ α) : List String :=
  reply.log.toList.map Entry.text

/-! ## Attempts -/

/-- Wherever it is made, the attempt replies alike at corresponding places. -/
def Attempt.Local {τ α : Type} (between : Correspondence τ) (attempt : Attempt τ α) : Prop :=
  ∀ site twinSite, Attempt.Corresponds (.parallel between site twinSite) between
    (fun value twinValue => twinValue = value) site twinSite attempt attempt

namespace Attempt.Local

variable {τ α : Type} {between : Correspondence τ} {attempt : Attempt τ α}

/-! ## Single steps -/

section Steps

variable [Token τ]

theorem satisfy (sees : between.Sees) (note : Option String) (expected : String)
    (accepts : τ → Bool) : (Attempt.satisfy note expected accepts).Local between := by
  intro site twinSite memory log twinMemory twinLog cursor twin reply stands places replies
  have notes : (Stage.parallel between site twinSite).TakesNotes :=
    Stage.takesNotes_parallel between site twinSite
  simp only [Attempt.satisfy, Cursor.peek_eq, sees.remaining_eq places] at replies ⊢
  cases first : cursor.remaining.head? with
  | none =>
      rw [first] at replies
      cases replies
      exact ⟨_, rfl, sees.unexpected places expected, notes.empty stands⟩
  | some token =>
      rw [first] at replies
      simp only [Option.map_some] at replies ⊢
      cases accepted : accepts token with
      | true =>
          rw [accepted] at replies
          cases replies
          exact ⟨_, rfl, .ok rfl (sees.advance 1 places), notes note stands⟩
      | false =>
          rw [accepted] at replies
          cases replies
          exact ⟨_, rfl, sees.unexpected places expected, notes note stands⟩

theorem tokens (sees : between.Sees) (run : List τ) :
    (Attempt.tokens run).Local between := by
  intro site twinSite memory log twinMemory twinLog cursor twin reply stands places replies
  have notes : (Stage.parallel between site twinSite).TakesNotes :=
    Stage.takesNotes_parallel between site twinSite
  simp only [Attempt.tokens, Cursor.window_eq_take, sees.remaining_eq places] at replies ⊢
  split at replies
  · next matched =>
      cases replies
      rw [if_pos matched]
      exact ⟨_, rfl, .ok rfl (sees.advance _ places), notes.empty stands⟩
  · next different =>
      cases replies
      rw [if_neg different]
      exact ⟨_, rfl, .error places (between.causes_self _), notes.empty stands⟩

theorem eof (sees : between.Sees) : (Attempt.eof (τ := τ)).Local between := by
  intro site twinSite memory log twinMemory twinLog cursor twin reply stands places replies
  have notes : (Stage.parallel between site twinSite).TakesNotes :=
    Stage.takesNotes_parallel between site twinSite
  rw [Attempt.eof, Cursor.atEnd_eq] at replies
  rw [Attempt.eof, Cursor.atEnd_eq, sees.remaining_eq places]
  split at replies
  · next ended =>
      cases replies
      rw [if_pos ended]
      exact ⟨_, rfl, .ok rfl places, notes.empty stands⟩
  · next more =>
      cases replies
      rw [if_neg more]
      exact ⟨_, rfl, sees.unexpected places endOfInput, notes.empty stands⟩

end Steps

/-! ## Parts of a parser value -/

/-- A part is run with the same memory at both sites, and what it leaves is put in the
same place. -/
theorem part (isLocal : attempt.Local between) {site twinSite : Site} {turn : Turn}
    {inner : Memory} {change : Memory → Memory} {log twinLog : Log}
    {cursor twin : Cursor τ} {reply : Reply τ α}
    (logs : log.Corresponds between site twinSite twinLog)
    (places : between.places cursor twin)
    (replies : ((attempt (turn :: site) inner cursor).bind fun reply =>
      some (reply.mapMemory change)) = some reply) :
    between.Answers ((Stage.parallel between site twinSite).after log twinLog)
      (fun value twinValue => twinValue = value) reply
      ((attempt (turn :: twinSite) inner twin).bind fun reply =>
        some (reply.mapMemory change)) := by
  obtain ⟨middle, replied, made⟩ := Option.bind_eq_some_iff.mp replies
  obtain ⟨answer, answers, outcomes, same, alike⟩ :=
    isLocal (turn :: site) (turn :: twinSite) ⟨rfl, .empty⟩ places replied
  simp only [Array.empty_append] at alike
  cases made
  refine ⟨answer.mapMemory change, ?_, outcomes, congrArg change same, ?_⟩
  · rw [answers]
    rfl
  · exact logs.append alike.outer

theorem onLeft (isLocal : attempt.Local between) : attempt.onLeft.Local between := by
  intro site twinSite memory log twinMemory twinLog cursor twin reply stands places replies
  cases stands.1
  exact isLocal.part stands.2 places replies

theorem onRight (isLocal : attempt.Local between) : attempt.onRight.Local between := by
  intro site twinSite memory log twinMemory twinLog cursor twin reply stands places replies
  cases stands.1
  exact isLocal.part stands.2 places replies

theorem onBound (isLocal : attempt.Local between) : attempt.onBound.Local between := by
  intro site twinSite memory log twinMemory twinLog cursor twin reply stands places replies
  cases stands.1
  exact isLocal.part stands.2 places replies

/-- A part is built in both runs or in neither, because they remember the same. -/
theorem onDemand (isLocal : attempt.Local between) (label : String) :
    (attempt.onDemand label).Local between := by
  intro site twinSite memory log twinMemory twinLog cursor twin reply stands places replies
  cases stands.1
  cases memory with
  | opened inside => exact isLocal.part stands.2 places replies
  | blank | split _ _ | called _ =>
      -- Nothing is built yet, so each run builds the part at its own site.
      obtain ⟨middle, replied, made⟩ := Option.bind_eq_some_iff.mp replies
      have built : Log.Corresponds between site twinSite #[.built site label]
          #[.built twinSite label] := .single (.built [] label)
      obtain ⟨answer, answers, outcomes, same, alike⟩ :=
        isLocal (.inside :: site) (.inside :: twinSite) ⟨rfl, .empty⟩ places replied
      simp only [Array.empty_append] at alike
      cases made
      refine ⟨(answer.mapMemory Memory.opened).after #[.built twinSite label], ?_, outcomes,
        congrArg Memory.opened same, stands.2.append (built.append alike.outer)⟩
      simp [Attempt.onDemand, answers]

end Attempt.Local

/-! ## Positions -/

section Shift

variable {τ α : Type} {near far : Cursor τ} {offset : Nat}

/-- A place so many tokens further on, with as much left. -/
structure Cursor.Shifted (offset : Nat) (cursor twin : Cursor τ) : Prop where
  position : twin.position = cursor.position + offset
  remainingLength : twin.remainingLength = cursor.remainingLength
  atEnd : twin.atEnd = cursor.atEnd

/-- The same output or the same cause of a failure, at a place so many tokens further
on. -/
inductive Outcome.Shifted (offset : Nat) : Outcome τ α → Outcome τ α → Prop where
  | ok {value : α} {rest twinRest : Cursor τ} (places : rest.Shifted offset twinRest) :
      Shifted offset (.ok ⟨value, rest⟩) (.ok ⟨value, twinRest⟩)
  | error {cause : Cause} {remainder twinRemainder : Cursor τ}
      (places : remainder.Shifted offset twinRemainder) :
      Shifted offset (.error ⟨remainder, cause⟩) (.error ⟨twinRemainder, cause⟩)

/-- The entry with the place that it tells of so many tokens further on. -/
def Entry.shifted (offset : Nat) : Entry → Entry
  | .visited label position => .visited label (position + offset)
  | entry => entry

theorem Cursor.Follows.shifted {cursor twin : Cursor τ} (follows : Follows near far cursor twin)
    (same : far.remaining = near.remaining) (apart : far.position = near.position + offset) :
    cursor.Shifted offset twin where
  position := by
    have total := follows.apart
    omega
  remainingLength := (Correspondence.onward near far same).remainingLength_eq follows
  atEnd := by rw [atEnd_eq, atEnd_eq, follows.remaining_eq same]

theorem Outcome.Corresponds.shifted {same : far.remaining = near.remaining}
    {outcome twin : Outcome τ α}
    (corresponds : outcome.Corresponds (.onward near far same)
      (fun value twinValue => twinValue = value) twin)
    (apart : far.position = near.position + offset) : outcome.Shifted offset twin := by
  cases corresponds with
  | ok alike places =>
      cases alike
      exact .ok (places.shifted same apart)
  | @error error twin places causes =>
      cases error
      cases twin
      cases causes
      exact .error (places.shifted same apart)

theorem Log.Corresponds.eq_map_shifted {same : far.remaining = near.remaining} {site : Site}
    {log twin : Log} (alike : log.Corresponds (.onward near far same) site site twin)
    (apart : far.position = near.position + offset) :
    twin = log.map (Entry.shifted offset) := by
  have entries : twin.toList.map id = log.toList.map (Entry.shifted offset) := by
    apply alike.map_eq
    intro entry entryTwin saysSame
    cases saysSame with
    | noted text => rfl
    | built path label => rfl
    | visited label places => rw [(places.shifted same apart).position, Entry.shifted, id]
  apply Array.ext'
  rw [Array.toList_map, ← entries, List.map_id]

end Shift

/-! ## The same place -/

section Same

variable {τ α : Type}

/-- A place that reads on from its twin's start as far as its twin does is its twin. -/
theorem Cursor.Follows.eq {start cursor twin : Cursor τ}
    (follows : Follows start start cursor twin) : twin = cursor :=
  Cursor.ext (follows.twinLeads.source.trans follows.leads.source.symm)
    (Nat.add_right_cancel follows.apart)

theorem Outcome.Corresponds.eq {start : Cursor τ} {same : start.remaining = start.remaining}
    {outcome twin : Outcome τ α}
    (corresponds : outcome.Corresponds (.onward start start same)
      (fun value twinValue => twinValue = value) twin) : twin = outcome := by
  cases corresponds with
  | ok alike places =>
      cases alike
      cases places.eq
      rfl
  | @error error twin places causes =>
      cases error
      cases twin
      cases causes
      cases places.eq
      rfl

theorem Log.Corresponds.texts_eq {start : Cursor τ}
    {same : start.remaining = start.remaining} {site twinSite : Site} {log twin : Log}
    (alike : log.Corresponds (.onward start start same) site twinSite twin) :
    twin.toList.map Entry.text = log.toList.map Entry.text := by
  apply alike.map_eq
  intro entry entryTwin saysSame
  cases saysSame with
  | noted text => rfl
  | built path label => rfl
  | visited label places => rw [places.eq]

end Same

/-! ## Parsers -/

variable {τ ρ : Type} [Token τ] {Out : ρ → Type} {α : Type}

theorem Parser.local_attempt {between : Correspondence τ} (sees : between.Sees)
    (label : ρ → String) {enter : (name : ρ) → Attempt τ (Out name)}
    (isLocal : ∀ name, (enter name).Local between) (parser : Parser τ Out α) :
    (parser.attempt label enter).Local between := by
  have notes (site twinSite : Site) : (Stage.parallel between site twinSite).TakesNotes :=
    Stage.takesNotes_parallel between site twinSite
  induction parser with
  | satisfy note expected accepts => exact .satisfy sees note expected accepts
  | tokens run => exact .tokens sees run
  | eof => exact .eof sees
  | pure value =>
      intro site twinSite
      exact .pure (notes site twinSite) rfl
  | fail expected actual =>
      intro site twinSite
      exact .fail (notes site twinSite) (between.causes_self _)
  | map note function parser ih =>
      intro site twinSite
      exact (ih site twinSite).map (notes site twinSite) note (congrArg function)
  | flatMap note binder parser binderIH parserIH =>
      intro site twinSite
      apply (parserIH.onLeft site twinSite).flatMap (notes site twinSite) note
      intro output twinOutput same
      cases same
      exact (binderIH output).onBound site twinSite
  | sequence note combine first second firstIH secondIH =>
      intro site twinSite
      apply (firstIH.onLeft site twinSite).sequence (notes site twinSite)
        (secondIH.onRight site twinSite) note
      intro value twinValue further twinFurther same furtherSame
      rw [same, furtherSame]
  | twice parser ih =>
      intro site twinSite
      apply (ih site twinSite).sequence (notes site twinSite) (ih site twinSite) none
      intro value twinValue further twinFurther same furtherSame
      rw [same, furtherSame]
  | choice first second firstIH secondIH =>
      intro site twinSite
      exact (firstIH.onLeft site twinSite).choice (secondIH.onRight site twinSite)
  | zeroOrMore collector parser ih =>
      intro site twinSite
      exact (ih site twinSite).zeroOrMore (notes site twinSite) (Attempt.Lockstep.gathers _)
  | oneOrMore collector parser ih =>
      intro site twinSite
      exact (ih site twinSite).oneOrMore (notes site twinSite) (Attempt.Lockstep.gathers _)
  | count bounds collector parser ih =>
      intro site twinSite
      exact (ih site twinSite).count (notes site twinSite) (Attempt.Lockstep.gathers _) bounds
  | delayed name parser ih => exact ih.onDemand name
  | rule name => exact (isLocal name).onDemand (label name)
  | tap name parser ih =>
      intro site twinSite
      apply (ih site twinSite).tap name
      intro memory log twinMemory twinLog cursor twin stands places
      exact ⟨stands.1, stands.2.append (.single (.visited name places))⟩

namespace Rules

theorem local_attempt {between : Correspondence τ} (sees : between.Sees)
    (rules : Rules τ Out) (depth : Nat) (name : ρ) :
    (rules.attempt depth name).Local between := by
  induction depth generalizing name with
  | zero =>
      intro site twinSite memory log twinMemory twinLog cursor twin reply stands places replies
      cases replies
  | succ depth inductionHypothesis =>
      exact Parser.local_attempt sees rules.label inductionHypothesis (rules.body name)

/-- Where the same tokens are left, runs reply alike, wherever in a parser value they are
made. -/
theorem answer_of_run (rules : Rules τ Out) {depth : Nat} {parser : Parser τ Out α}
    {site : Site} {memory : Memory} {near far : Cursor τ} {reply : Reply τ α}
    (same : far.remaining = near.remaining)
    (replies : rules.run depth parser site memory near = some reply) (twinSite : Site) :
    ∃ answer, rules.run depth parser twinSite memory far = some answer ∧
      reply.outcome.Corresponds (.onward near far same)
        (fun value twinValue => twinValue = value) answer.outcome ∧
      answer.memory = reply.memory ∧
      reply.log.Corresponds (.onward near far same) site twinSite answer.log := by
  have isLocal := parser.local_attempt (Correspondence.sees_onward same) rules.label
    (rules.local_attempt (Correspondence.sees_onward same) depth)
  have start : (Correspondence.onward near far same).places near far := .start near far
  obtain ⟨answer, answers, outcomes, memory, logs⟩ :=
    isLocal site twinSite ⟨rfl, .empty⟩ start replies
  simp only [Array.empty_append] at logs
  exact ⟨answer, answers, outcomes, memory, logs⟩

theorem run_eq_none (rules : Rules τ Out) {depth : Nat} {parser : Parser τ Out α}
    {site : Site} {memory : Memory} {near far : Cursor τ}
    (same : far.remaining = near.remaining) (twinSite : Site)
    (endless : rules.run depth parser site memory near = none) :
    rules.run depth parser twinSite memory far = none := by
  cases answers : rules.run depth parser twinSite memory far with
  | none => rfl
  | some answer =>
      obtain ⟨reply, replies, _⟩ := rules.answer_of_run same.symm answers site
      rw [endless] at replies
      cases replies

/-- Which part of a parser value is run cannot be told from what it replies. -/
theorem run_elsewhere (rules : Rules τ Out) {depth : Nat}
    {parser : Parser τ Out α} {site : Site} {memory : Memory} {cursor : Cursor τ}
    {reply : Reply τ α} (replies : rules.run depth parser site memory cursor = some reply)
    (twinSite : Site) :
    ∃ answer, rules.run depth parser twinSite memory cursor = some answer ∧
      answer.outcome = reply.outcome ∧ answer.memory = reply.memory ∧
      answer.texts = reply.texts := by
  obtain ⟨answer, answers, outcomes, memory, logs⟩ := rules.answer_of_run rfl replies twinSite
  exact ⟨answer, answers, outcomes.eq, memory, logs.texts_eq⟩

/-- A text in front of what is read changes nothing but positions. With and without it
runs either never end, or reply with the same output or the same cause of a failure and
with as much left; the positions, and those in the log, are further on by its length. -/
theorem run_behind (rules : Rules τ Out) (depth : Nat) (parser : Parser τ Out α)
    (site : Site) (memory : Memory) (identity other : Nat) (before tokens : List τ)
    (place : Nat) :
    let near := (Cursor.start ⟨identity, tokens.toArray⟩).advance place
    let far := (Cursor.start ⟨other, (before ++ tokens).toArray⟩).advance
      (before.length + place)
    (rules.run depth parser site memory near = none ↔
      rules.run depth parser site memory far = none) ∧
    ∀ reply answer, rules.run depth parser site memory near = some reply →
      rules.run depth parser site memory far = some answer →
      reply.outcome.Shifted before.length answer.outcome ∧
        answer.memory = reply.memory ∧
        answer.log = reply.log.map (Entry.shifted before.length) := by
  intro near far
  have same : far.remaining = near.remaining :=
    Cursor.remaining_behind identity other before tokens place
  have apart : far.position = near.position + before.length :=
    Cursor.position_behind identity other before tokens place
  refine ⟨⟨rules.run_eq_none same site, rules.run_eq_none same.symm site⟩, ?_⟩
  intro reply answer replies answers
  obtain ⟨_, found, outcomes, memory, logs⟩ := rules.answer_of_run same replies site
  cases answers.symm.trans found
  exact ⟨outcomes.shifted apart, memory, logs.eq_map_shifted apart⟩

end Rules

end Descent
