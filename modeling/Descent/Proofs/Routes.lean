import Descent.Cursor.Slots
import Descent.Proofs.Moves

/-!
# Routes to slots

In a session with many cursors, each of them goes back to a source: a new cursor was made on it,
and moves led on from there, through slots that were filled before. This is the route to its
slot. The steps, with what they have shown, determine all routes, and the route to a slot
determines the cursor in it. So every cursor is where one advance from the start of its source
leads, and it stays there, whatever becomes of others.
-/

namespace Descent.Cursor

variable {τ : Type}

/-- How a slot was filled: the number of a source, and the moves that lead on from its start. -/
structure Route where
  source : Nat
  moves : List Move
  deriving DecidableEq, Repr

namespace Route

/-- The route that goes on with one more move. -/
def onward (route : Route) (move : Move) : Route :=
  ⟨route.source, route.moves ++ [move]⟩

/-- How many tokens the moves ask for together. -/
def total (route : Route) : Nat :=
  Move.total route.moves

/-- The route leads to the cursor. -/
def Reaches (sources : Array (Source τ)) (route : Route) (cursor : Cursor τ) : Prop :=
  ∃ source, sources[route.source]? = some source ∧ (start source).walk route.moves = some cursor

theorem Reaches.onward {sources : Array (Source τ)} {route : Route} {cursor next : Cursor τ}
    {move : Move} (reaches : route.Reaches sources cursor) (moved : cursor.move move = some next) :
    (route.onward move).Reaches sources next := by
  obtain ⟨source, found, walked⟩ := reaches
  exact ⟨source, found, walk_onward walked moved⟩

end Route

/-- The route to the cursor that a step makes, given the routes to the slots so far and what the
step has shown. A step that shows no new cursor has none. -/
def Step.route? (routes : List Route) : Step → Observation τ → Option Route
  | .new number, _ => some ⟨number, []⟩
  | .copy slot, _ => (routes[slot]?).map fun route => route.onward .copy
  | .advance slot steps, _ => (routes[slot]?).map fun route => route.onward (.advance steps)
  | .peek slot, .peeked _ _ => (routes[slot]?).map fun route => route.onward .peek
  | _, _ => none

/-- The routes to all slots behind a session, first to last, given those before it. -/
def routesFrom (routes : List Route) : List Step → List (Observation τ) → List Route
  | first :: rest, seen :: later =>
      routesFrom (routes ++ (first.route? routes seen).toList) rest later
  | _, _ => routes

/-- All that a step names is there: as many sources, and as many slots. -/
def Step.Named (sources slots : Nat) : Step → Prop
  | .new number => number < sources
  | .copy slot | .advance slot _ | .peek slot => slot < slots
  | .remaining slot | .source slot | .parts slot | .inspect slot => slot < slots
  | .same slot other => slot < slots ∧ other < slots

namespace Slots

variable {sources : Array (Source τ)} {slots later : Slots τ} {cursor : Cursor τ} {slot : Nat}
variable {command : Step} {steps : List Step} {shown : Observation τ} {seen : List (Observation τ)}
variable {routes : List Route}

/-! ## Single steps -/

/-- The step puts a cursor into a new slot. -/
inductive Fills (sources : Array (Source τ)) (slots : Slots τ) :
    Step → Observation τ → Cursor τ → Prop
  | new {number : Nat} {source : Source τ} (found : sources[number]? = some source) :
      Fills sources slots (.new number) (.made (start source)) (start source)
  | copy {slot : Nat} {cursor : Cursor τ} (filled : slots[slot]? = some cursor) :
      Fills sources slots (.copy slot) (.made cursor) cursor
  | advance {slot : Nat} {cursor : Cursor τ} (filled : slots[slot]? = some cursor) (steps : Nat) :
      Fills sources slots (.advance slot steps) (.made (cursor.advance steps))
        (cursor.advance steps)
  | peek {slot : Nat} {cursor next : Cursor τ} {token : τ} (filled : slots[slot]? = some cursor)
      (peeked : cursor.peek = some (token, next)) :
      Fills sources slots (.peek slot) (.peeked token next) next

section Steps

variable [Token τ]

/-- A step fills a new slot behind the others, or it changes nothing and adds no route. -/
theorem step_cases (taken : step sources slots command = some (later, shown)) :
    (∃ cursor, Fills sources slots command shown cursor ∧ later = slots.push cursor) ∨
      later = slots ∧ ∀ routes, command.route? routes shown = none := by
  cases command with
  | new number =>
      obtain ⟨source, found, same⟩ := Option.map_eq_some_iff.mp taken
      cases same
      exact .inl ⟨_, .new found, rfl⟩
  | copy slot =>
      obtain ⟨cursor, filled, same⟩ := Option.map_eq_some_iff.mp taken
      cases same
      exact .inl ⟨_, .copy filled, rfl⟩
  | advance slot steps =>
      obtain ⟨cursor, filled, same⟩ := Option.map_eq_some_iff.mp taken
      cases same
      exact .inl ⟨_, .advance filled steps, rfl⟩
  | peek slot =>
      obtain ⟨cursor, filled, same⟩ := Option.map_eq_some_iff.mp taken
      cases peeked : cursor.peek with
      | none =>
          rw [peeked] at same
          cases same
          exact .inr ⟨rfl, fun _ => rfl⟩
      | some found =>
          rw [peeked] at same
          cases same
          exact .inl ⟨_, .peek filled peeked, rfl⟩
  | remaining slot | source slot | parts slot | inspect slot =>
      obtain ⟨cursor, _, same⟩ := Option.map_eq_some_iff.mp taken
      cases same
      exact .inr ⟨rfl, fun _ => rfl⟩
  | same slot other =>
      obtain ⟨left, _, taken⟩ := Option.bind_eq_some_iff.mp taken
      obtain ⟨right, _, same⟩ := Option.bind_eq_some_iff.mp taken
      cases same
      exact .inr ⟨rfl, fun _ => rfl⟩

/-- No step changes a slot that is filled. -/
theorem getElem?_step (taken : step sources slots command = some (later, shown))
    (filled : slots[slot]? = some cursor) : later[slot]? = some cursor := by
  obtain ⟨next, _, rfl⟩ | ⟨rfl, _⟩ := step_cases taken
  · obtain ⟨within, _⟩ := Array.getElem?_eq_some_iff.mp filled
    rw [Array.getElem?_push_lt within, ← Array.getElem?_eq_getElem within, filled]
  · exact filled

/-- A step is answered exactly if all that it names is there. -/
theorem step_isSome_iff :
    (step sources slots command).isSome = true ↔ command.Named sources.size slots.size := by
  cases command with
  | same slot other =>
      simp only [step, Step.Named]
      by_cases within : slot < slots.size
      · by_cases otherWithin : other < slots.size <;> simp [within, otherWithin]
      · simp [within]
  | _ => simp [step, Step.Named]

/-! ## Sessions -/

theorem run_cons_eq_some {first : Step} {rest : List Step} :
    run sources slots (first :: rest) = some (later, seen) ↔
      ∃ between shown after, step sources slots first = some (between, shown) ∧
        run sources between rest = some (later, after) ∧ seen = shown :: after := by
  constructor
  · intro ran
    obtain ⟨⟨between, shown⟩, taken, others⟩ := Option.bind_eq_some_iff.mp ran
    obtain ⟨⟨last, after⟩, onward, same⟩ := Option.bind_eq_some_iff.mp others
    cases same
    exact ⟨between, shown, after, taken, onward, rfl⟩
  · rintro ⟨between, shown, after, taken, ran, rfl⟩
    simp only [run, taken, ran, Option.bind_eq_bind, Option.bind_some, Option.pure_def]

/-- A session that is answered is answered part by part. -/
theorem run_append_eq_some {before after : List Step}
    (ran : run sources slots (before ++ after) = some (later, seen)) :
    ∃ between shown others, run sources slots before = some (between, shown) ∧
      run sources between after = some (later, others) ∧ seen = shown ++ others := by
  induction before generalizing slots seen with
  | nil => exact ⟨slots, [], seen, rfl, ran, rfl⟩
  | cons first before ih =>
      obtain ⟨next, shown, _, taken, onward, rfl⟩ := run_cons_eq_some.mp ran
      obtain ⟨between, earlier, others, ranBefore, ranAfter, rfl⟩ := ih onward
      exact ⟨between, shown :: earlier, others,
        run_cons_eq_some.mpr ⟨next, shown, earlier, taken, ranBefore, rfl⟩, ranAfter, rfl⟩

/-- What is in a slot stays in it to the end of the session. -/
theorem getElem?_run (ran : run sources slots steps = some (later, seen))
    (filled : slots[slot]? = some cursor) : later[slot]? = some cursor := by
  induction steps generalizing slots seen with
  | nil =>
      cases ran
      exact filled
  | cons first rest ih =>
      obtain ⟨between, shown, after, taken, onward, _⟩ := run_cons_eq_some.mp ran
      exact ih onward (getElem?_step taken filled)

end Steps

/-! ## Routes -/

/-- There is one route to each slot, and it leads to the cursor in it. -/
structure Routed (sources : Array (Source τ)) (routes : List Route) (slots : Slots τ) : Prop where
  length_eq : routes.length = slots.size
  reaches {slot : Nat} {cursor : Cursor τ} : slots[slot]? = some cursor →
    ∃ route, routes[slot]? = some route ∧ route.Reaches sources cursor

namespace Routed

theorem empty : Routed sources [] #[] where
  length_eq := rfl
  reaches filled := by cases filled

theorem push (routed : Routed sources routes slots) {route : Route}
    (reaches : route.Reaches sources cursor) :
    Routed sources (routes ++ [route]) (slots.push cursor) where
  length_eq := by rw [List.length_append, routed.length_eq, Array.size_push, List.length_singleton]
  reaches {slot other} filled := by
    rw [Array.getElem?_push] at filled
    split at filled
    · next last =>
        cases filled
        refine ⟨route, ?_, reaches⟩
        rw [last, ← routed.length_eq, List.getElem?_concat_length]
    · obtain ⟨earlier, known, leads⟩ := routed.reaches filled
      obtain ⟨within, _⟩ := List.getElem?_eq_some_iff.mp known
      exact ⟨earlier, by rw [List.getElem?_append_left within, known], leads⟩

/-- A move from a slot leads on along its route. -/
theorem onward {move : Move} {next : Cursor τ} (routed : Routed sources routes slots)
    (filled : slots[slot]? = some cursor) (moved : cursor.move move = some next) :
    ∃ route, ((routes[slot]?).map fun route => route.onward move) = some route ∧
      route.Reaches sources next := by
  obtain ⟨route, known, reaches⟩ := routed.reaches filled
  exact ⟨route.onward move, by rw [known, Option.map_some], reaches.onward moved⟩

/-- The slot that a step fills has a route, by way of the slot that the step names. -/
theorem fills (routed : Routed sources routes slots)
    (filling : Fills sources slots command shown cursor) :
    ∃ route, command.route? routes shown = some route ∧ route.Reaches sources cursor := by
  cases filling with
  | new found => exact ⟨_, rfl, _, found, rfl⟩
  | copy filled => exact routed.onward filled rfl
  | advance filled steps => exact routed.onward filled rfl
  | peek filled peeked =>
      exact routed.onward filled (by rw [move, peeked, Option.map_some])

section Sessions

variable [Token τ]

theorem behind_step (routed : Routed sources routes slots)
    (taken : step sources slots command = some (later, shown)) :
    Routed sources (routes ++ (command.route? routes shown).toList) later := by
  obtain ⟨cursor, filling, rfl⟩ | ⟨rfl, nowhere⟩ := step_cases taken
  · obtain ⟨route, added, reaches⟩ := routed.fills filling
    rw [added]
    exact routed.push reaches
  · rw [nowhere, Option.toList_none, List.append_nil]
    exact routed

theorem behind_run (routed : Routed sources routes slots)
    (ran : run sources slots steps = some (later, seen)) :
    Routed sources (routesFrom routes steps seen) later := by
  induction steps generalizing routes slots seen with
  | nil =>
      cases ran
      exact routed
  | cons first rest ih =>
      obtain ⟨between, shown, after, taken, onward, rfl⟩ := run_cons_eq_some.mp ran
      exact ih (routed.behind_step taken) onward

end Sessions

end Routed

/-- In a session that begins with no slots, each slot has a route, and the cursor in it is as many
tokens into the source of the route as the moves ask for together, or at the end. What is left
there are the tokens from its position on. Their number, whether there are any, and the next one
are told alike by all that can be asked; and a machine that goes the same way ends up there and
answers the same.

Cursors on one source are equal exactly if they are at one position. What is in a slot after the
first steps of a session is in it after all of them. And a session can go on with any step that
names what is there. -/
theorem run_along_routes [Token τ] [Machine] (ran : run sources #[] steps = some (slots, seen)) :
    (routesFrom [] steps seen).length = slots.size ∧
    (∀ (slot : Nat) (cursor : Cursor τ), slots[slot]? = some cursor →
      ∃ route source, (routesFrom [] steps seen)[slot]? = some route ∧
        sources[route.source]? = some source ∧
        cursor.source = source ∧ cursor.position = min source.tokens.size route.total ∧
        cursor.remaining = source.tokens.toList.drop cursor.position ∧
        cursor.remainingLength = cursor.remaining.length ∧
        (cursor.atEnd = true ↔ cursor.peek = none) ∧
        (cursor.atEnd = true ↔ cursor.remaining = []) ∧
        (cursor.peek = cursor.remaining.head?.map fun token => (token, cursor.advance 1)) ∧
        (source.tokens.size < Word.size →
          (Spot.start source).walk route.moves = .ok (some cursor.spot) ∧
            cursor.spot.Answers cursor)) ∧
    (∀ (slot other : Nat) (left right : Cursor τ),
      slots[slot]? = some left → slots[other]? = some right →
      left.source = right.source →
        ((left == right) = true ↔ left.position = right.position) ∧
        (left.spot == right.spot) = (left == right)) ∧
    (∀ before after, steps = before ++ after →
      ∃ earlier shown, run sources #[] before = some (earlier, shown) ∧
        ∀ (slot : Nat) (cursor : Cursor τ),
          earlier[slot]? = some cursor → slots[slot]? = some cursor) ∧
    ∀ further, (step sources slots further).isSome = true ↔
      further.Named sources.size slots.size := by
  have routed := Routed.empty.behind_run ran
  refine ⟨routed.length_eq, ?places, ?equal, ?permanent, fun further => step_isSome_iff⟩
  case places =>
    intro slot cursor filled
    obtain ⟨route, known, source, found, walked⟩ := routed.reaches filled
    obtain ⟨origin, position⟩ := position_of_walk walked
    refine ⟨route, source, known, found, origin, position, ?_, cursor.length_remaining.symm,
      ?_, atEnd_iff_remaining, cursor.peek_eq,
      fun fits => ⟨walk_spot_start fits walked, answers_spot ?_⟩⟩
    · rw [remaining_eq, origin]
    · rw [atEnd_iff_remaining, peek_eq_none_iff_remaining]
    · rw [length, origin]
      exact fits
  case equal =>
    intro slot other left right _ _ same
    refine ⟨?_, rfl⟩
    rw [beq_iff, same]
    exact and_iff_right rfl
  case permanent =>
    rintro before after rfl
    obtain ⟨earlier, shown, _, ranBefore, ranAfter, _⟩ := run_append_eq_some ran
    exact ⟨earlier, shown, ranBefore, fun _ _ filled => getElem?_run ranAfter filled⟩

/-- A source of three letters, and one without any. -/
def letters : Array (Source Char) := #[⟨0, #['a', 'b', 'c']⟩, ⟨1, #[]⟩]

/-- Two cursors go on to the end of the letters, the second one in smaller steps; then the first
one looks for a token in vain, and a cursor is made on the other source. -/
def toTheEnd : List Step :=
  [.new 0, .peek 0, .advance 1 (Word.size - 1), .advance 0 2, .copy 3, .peek 4, .peek 2, .new 1]

/-- The second step and the third one ask for more tokens together than a word can count. The
first cursor is still at the start. -/
theorem run_along_routes_overflow :
    ∃ slots seen, run letters #[] toTheEnd = some (slots, seen) ∧
      ∃ first left right, slots[0]? = some first ∧ slots[2]? = some left ∧
        slots[5]? = some right ∧ first.position = 0 ∧ left.position = 3 ∧ (left == right) = true ∧
        (Spot.start ⟨0, #['a', 'b', 'c']⟩).walk [.peek, .advance (Word.size - 1)] =
          .ok (some left.spot) := by
  have ran : run letters #[] toTheEnd = some (_, _) := rfl
  obtain ⟨_, places, equal, permanent, _⟩ := run_along_routes ran
  obtain ⟨earlier, shown, ranBefore, keeps⟩ := permanent [.new 0] toTheEnd.tail rfl
  cases ranBefore
  obtain ⟨route, source, known, found, _, atOnce, _, _, _, _, _, machine⟩ := places 2 _ rfl
  cases known
  cases found
  obtain ⟨route, source, known, found, _, split, _⟩ := places 5 _ rfl
  cases known
  cases found
  have left := atOnce.trans (by decide : min 3 (Move.total [.peek, .advance (Word.size - 1)]) = 3)
  have right := split.trans (by decide : min 3 (Move.total [.advance 2, .copy, .peek]) = 3)
  have same := (equal 2 5 _ _ rfl rfl rfl).1.mpr (left.trans right.symm)
  exact ⟨_, _, ran, _, _, _, keeps 0 _ rfl, rfl, rfl, rfl, left, same, (machine (by decide)).1⟩

end Slots

end Descent.Cursor
