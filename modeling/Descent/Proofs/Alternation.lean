import Descent.Proofs.Locality

/-!
# Many alternatives

A choice among more than two parsers is made of choices between two, and it does not
matter how they are put together. The alternatives are tried one after the other, each of
them from the start, until one matches. If none does, the failure that got furthest is
reported, and the last one of those that got equally far.

All of this is proved of a list of alternatives first. A choice of any form comes to the
same as trying the list of its alternatives, because trying the second half of a list after
the first is trying all of it.
-/

namespace Descent

namespace ParseError

variable {τ : Type}

/-- It does not matter in which order the furthest of three failures is picked. -/
theorem furthest_assoc (first second third : ParseError τ) :
    (first.furthest second).furthest third = first.furthest (second.furthest third) := by
  by_cases secondPicked : second.remainingLength ≤ first.remainingLength
  · rw [furthest_of_le secondPicked]
    by_cases thirdPicked : third.remainingLength ≤ second.remainingLength
    · rw [furthest_of_le thirdPicked, furthest_of_le (Nat.le_trans thirdPicked secondPicked)]
    · rw [furthest_of_lt (Nat.not_le.mp thirdPicked), furthest_of_le secondPicked]
  · have firstPicked := Nat.not_le.mp secondPicked
    rw [furthest_of_lt firstPicked]
    by_cases thirdPicked : third.remainingLength ≤ second.remainingLength
    · rw [furthest_of_le thirdPicked]
    · have firstAgain := Nat.lt_trans firstPicked (Nat.not_le.mp thirdPicked)
      rw [furthest_of_lt (Nat.not_le.mp thirdPicked), furthest_of_lt firstPicked,
        furthest_of_lt firstAgain]

/-- The failure got as far as any, and further than those behind it. -/
def IsFurthest (errors : List (ParseError τ)) (error : ParseError τ) : Prop :=
  ∃ earlier later, errors = earlier ++ error :: later ∧
    (∀ other ∈ earlier, error.remainingLength ≤ other.remainingLength) ∧
    ∀ other ∈ later, error.remainingLength < other.remainingLength

theorem isFurthest_single (error : ParseError τ) : IsFurthest [error] error :=
  ⟨[], [], rfl, nofun, nofun⟩

namespace IsFurthest

variable {errors : List (ParseError τ)} {error : ParseError τ}

theorem mem (furthest : IsFurthest errors error) : error ∈ errors := by
  obtain ⟨earlier, later, rfl, _⟩ := furthest
  simp

theorem remainingLength_le (furthest : IsFurthest errors error) {other : ParseError τ}
    (member : other ∈ errors) : error.remainingLength ≤ other.remainingLength := by
  obtain ⟨earlier, later, rfl, before, behind⟩ := furthest
  simp only [List.mem_append, List.mem_cons] at member
  rcases member with member | rfl | member
  · exact before other member
  · exact Nat.le_refl _
  · exact Nat.le_of_lt (behind other member)

/-- There is one such failure, since of two the later one would have been picked. -/
theorem eq {other : ParseError τ} (furthest : IsFurthest errors error)
    (otherFurthest : IsFurthest errors other) : other = error := by
  obtain ⟨earlier, later, rfl, before, behind⟩ := furthest
  obtain ⟨otherEarlier, otherLater, split, otherBefore, otherBehind⟩ := otherFurthest
  rcases List.append_eq_append_iff.mp split with ⟨between, front, back⟩ | ⟨between, front, back⟩
  · cases between with
    | nil => exact (List.cons.inj back).1.symm
    | cons first between =>
        obtain ⟨rfl, rfl⟩ := List.cons.inj back
        have near := otherBefore error (by simp [front])
        have far := behind other (by simp)
        omega
  · cases between with
    | nil => exact (List.cons.inj back).1
    | cons first between =>
        obtain ⟨rfl, rfl⟩ := List.cons.inj back
        have near := before other (by simp [front])
        have far := otherBehind error (by simp)
        omega

/-- With one more failure in front, it is picked only if it got further than all others. -/
theorem cons (furthest : IsFurthest errors error) (first : ParseError τ) :
    IsFurthest (first :: errors) (first.furthest error) := by
  by_cases further : error.remainingLength ≤ first.remainingLength
  · rw [furthest_of_le further]
    obtain ⟨earlier, later, rfl, before, behind⟩ := furthest
    refine ⟨first :: earlier, later, rfl, ?_, behind⟩
    intro other member
    rcases List.mem_cons.mp member with rfl | member
    · exact further
    · exact before other member
  · rw [furthest_of_lt (Nat.not_le.mp further)]
    refine ⟨[], errors, rfl, nofun, ?_⟩
    intro other member
    exact Nat.lt_of_lt_of_le (Nat.not_le.mp further) (furthest.remainingLength_le member)

end IsFurthest

end ParseError

/-! ## Alternatives in a row -/

variable {τ ρ : Type} {Out : ρ → Type} {α : Type}

/-- A parser, and what it remembers. -/
structure Part (τ : Type) {ρ : Type} (Out : ρ → Type) (α : Type) where
  parser : Parser τ Out α
  memory : Memory

/-- What trying alternatives comes to: the outcome, what was logged, and the alternatives
as they are afterwards. -/
structure Tried (τ : Type) {ρ : Type} (Out : ρ → Type) (α : Type) where
  outcome : Outcome τ α
  texts : List String
  parts : List (Part τ Out α)

namespace Tried

/-- What a second trial after a first one comes to, if the first one failed. Otherwise the
second one is not made, and its alternatives stay as they are. -/
def orElse (first : Option (Tried τ Out α)) (untouched : List (Part τ Out α))
    (second : Option (Tried τ Out α)) : Option (Tried τ Out α) :=
  first.bind fun ahead =>
    match ahead.outcome with
    | .ok found => some ⟨.ok found, ahead.texts, ahead.parts ++ untouched⟩
    | .error error => second.map fun behind =>
        match behind.outcome with
        | .ok found =>
            ⟨.ok found, ahead.texts ++ behind.texts, ahead.parts ++ behind.parts⟩
        | .error other =>
            ⟨.error (error.furthest other), ahead.texts ++ behind.texts,
              ahead.parts ++ behind.parts⟩

/-- Trials in a row may be put together in any way. -/
theorem orElse_assoc (first second third : Option (Tried τ Out α))
    (untouched more : List (Part τ Out α)) :
    orElse (orElse first untouched second) more third =
      orElse first (untouched ++ more) (orElse second more third) := by
  cases first with
  | none => rfl
  | some ahead =>
      rcases ahead with ⟨outcome, texts, parts⟩
      cases outcome with
      | ok found => simp [orElse]
      | error error =>
          cases second with
          | none => rfl
          | some behind =>
              rcases behind with ⟨outcome, texts, parts⟩
              cases outcome with
              | ok found => simp [orElse]
              | error other =>
                  cases third with
                  | none => rfl
                  | some last =>
                      rcases last with ⟨outcome, texts, parts⟩
                      cases outcome with
                      | ok found => simp [orElse]
                      | error another => simp [orElse, ParseError.furthest_assoc]

end Tried

namespace Part

variable [Token τ] (rules : Rules τ Out) (depth : Nat) (cursor : Cursor τ)

/-- What the part does by itself. -/
def run (part : Part τ Out α) : Option (Reply τ α) :=
  rules.run depth part.parser [] part.memory cursor

/-- The part as it is after it has replied. -/
def left (part : Part τ Out α) (reply : Reply τ α) : Part τ Out α :=
  ⟨part.parser, reply.memory⟩

/-- What trying the part alone comes to. -/
def tried (part : Part τ Out α) : Option (Tried τ Out α) :=
  (part.run rules depth cursor).map fun reply =>
    ⟨reply.outcome, reply.texts, [part.left reply]⟩

/-- What trying parts in order comes to. -/
def tryAll : List (Part τ Out α) → Option (Tried τ Out α)
  | [] => none
  | [last] => last.tried rules depth cursor
  | first :: rest => Tried.orElse (first.tried rules depth cursor) rest (tryAll rest)

variable {rules depth cursor}

theorem tryAll_cons (first : Part τ Out α) {rest : List (Part τ Out α)} (more : rest ≠ []) :
    tryAll rules depth cursor (first :: rest) =
      Tried.orElse (first.tried rules depth cursor) rest (tryAll rules depth cursor rest) := by
  cases rest with
  | nil => exact absurd rfl more
  | cons second rest => rfl

/-- To try all parts is to try the first ones, and then the others. -/
theorem tryAll_append {parts others : List (Part τ Out α)} (nonempty : parts ≠ [])
    (more : others ≠ []) :
    tryAll rules depth cursor (parts ++ others) =
      Tried.orElse (tryAll rules depth cursor parts) others
        (tryAll rules depth cursor others) := by
  induction parts with
  | nil => exact absurd rfl nonempty
  | cons first rest inductionHypothesis =>
      cases rest with
      | nil => exact tryAll_cons first more
      | cons second rest =>
          -- Both sides make the same trials in a row, put together in two ways.
          have nonempty := List.cons_ne_nil second rest
          rw [List.cons_append, tryAll_cons first (List.append_ne_nil_of_left_ne_nil nonempty _),
            tryAll_cons first nonempty, inductionHypothesis nonempty, Tried.orElse_assoc]

variable {part : Part τ Out α} {parts : List (Part τ Out α)} {reply : Reply τ α}

/-- No part is tried behind the first success. -/
theorem tryAll_of_ok (replies : part.run rules depth cursor = some reply)
    {found : Match τ α} (succeeded : reply.outcome = .ok found) :
    tryAll rules depth cursor (part :: parts) =
      some ⟨.ok found, reply.texts, part.left reply :: parts⟩ := by
  cases parts with
  | nil => simp [tryAll, tried, replies, succeeded]
  | cons second rest => simp [tryAll, Tried.orElse, tried, replies, succeeded]

/-- Behind a failure the next parts are tried. -/
theorem tryAll_of_error (replies : part.run rules depth cursor = some reply)
    {error : ParseError τ} (failed : reply.outcome = .error error) {later : Tried τ Out α}
    (more : tryAll rules depth cursor parts = some later) :
    tryAll rules depth cursor (part :: parts) =
      some ⟨match later.outcome with
        | .ok found => .ok found
        | .error other => .error (error.furthest other),
        reply.texts ++ later.texts, part.left reply :: later.parts⟩ := by
  cases parts with
  | nil => cases more
  | cons second rest =>
      rcases later with ⟨outcome, texts, parts⟩
      rw [tryAll_cons part (List.cons_ne_nil second rest), more]
      cases outcome <;> simp [Tried.orElse, tried, replies, failed]

/-- If some part succeeds, and all parts before it fail, its success is the outcome. -/
theorem tryAll_of_success {failures : List (Reply τ α)} {success : Reply τ α}
    {others : List (Option (Reply τ α))} {found : Match τ α}
    (replies : parts.map (run rules depth cursor) = failures.map some ++ some success :: others)
    (failed : ∀ failure ∈ failures, ∃ error, failure.outcome = .error error)
    (succeeded : success.outcome = .ok found) :
    tryAll rules depth cursor parts =
      some ⟨.ok found, (failures ++ [success]).flatMap Reply.texts,
        List.zipWith left parts (failures ++ [success]) ++
          parts.drop (failures.length + 1)⟩ := by
  induction failures generalizing parts with
  | nil =>
      cases parts with
      | nil => cases replies
      | cons part parts =>
          have own := (List.cons.inj replies).1
          rw [tryAll_of_ok own succeeded]
          simp
  | cons failure failures inductionHypothesis =>
      cases parts with
      | nil => cases replies
      | cons part parts =>
          obtain ⟨own, rest⟩ := List.cons.inj replies
          obtain ⟨error, failed'⟩ := failed failure List.mem_cons_self
          have later := inductionHypothesis rest fun other member =>
            failed other (List.mem_cons_of_mem failure member)
          rw [tryAll_of_error own failed' later]
          simp

/-- If all parts fail, the furthest failure is the outcome. -/
theorem tryAll_of_failures (nonempty : parts ≠ []) {replies : List (Reply τ α)}
    {errors : List (ParseError τ)} (replied : parts.map (run rules depth cursor) = replies.map some)
    (failed : replies.map Reply.outcome = errors.map .error) :
    ∃ error, ParseError.IsFurthest errors error ∧
      tryAll rules depth cursor parts =
        some ⟨.error error, replies.flatMap Reply.texts, List.zipWith left parts replies⟩ := by
  induction parts generalizing replies errors with
  | nil => exact absurd rfl nonempty
  | cons part parts inductionHypothesis =>
      match replies, errors with
      | [], _ => cases replied
      | _ :: _, [] => cases failed
      | reply :: replies, error :: errors =>
          obtain ⟨own, rest⟩ := List.cons.inj replied
          obtain ⟨ownFailed, restFailed⟩ := List.cons.inj failed
          cases parts with
          | nil =>
              cases replies with
              | cons _ _ => cases rest
              | nil =>
                  cases errors with
                  | cons _ _ => cases restFailed
                  | nil =>
                      refine ⟨error, ParseError.isFurthest_single error, ?_⟩
                      simp [tryAll, tried, own, ownFailed]
          | cons second parts =>
              obtain ⟨other, furthest, later⟩ :=
                inductionHypothesis (List.cons_ne_nil second parts) rest restFailed
              refine ⟨error.furthest other, furthest.cons error, ?_⟩
              rw [tryAll_of_error own ownFailed later]
              simp

end Part

/-! ## Alternatives in any form -/

/-- Alternatives, put together two at a time. -/
inductive Alternatives (τ : Type) {ρ : Type} (Out : ρ → Type) (α : Type) where
  | single (parser : Parser τ Out α)
  | pair (first second : Alternatives τ Out α)

namespace Alternatives

/-- The parser that tries the alternatives. -/
def parser : Alternatives τ Out α → Parser τ Out α
  | .single parser => parser
  | .pair first second => .choice first.parser second.parser

/-- The alternatives from first to last, with what they remember. -/
def parts : Alternatives τ Out α → Memory → List (Part τ Out α)
  | .single parser, memory => [⟨parser, memory⟩]
  | .pair first second, memory => first.parts memory.left ++ second.parts memory.right

theorem parts_ne_nil (tree : Alternatives τ Out α) (memory : Memory) :
    tree.parts memory ≠ [] := by
  induction tree generalizing memory with
  | single parser => exact List.cons_ne_nil _ _
  | pair first second firstIH secondIH =>
      exact List.append_ne_nil_of_left_ne_nil (firstIH memory.left) _

/-- What a reply of all alternatives together comes to. -/
def tried (tree : Alternatives τ Out α) (reply : Reply τ α) : Tried τ Out α :=
  ⟨reply.outcome, reply.texts, tree.parts reply.memory⟩

variable [Token τ]

theorem tried_single (rules : Rules τ Out) (depth : Nat) (parser : Parser τ Out α)
    (site : Site) (memory : Memory) (cursor : Cursor τ) :
    (rules.run depth parser site memory cursor).map (single parser).tried =
      Part.tried rules depth cursor ⟨parser, memory⟩ := by
  simp only [Part.tried, Part.run]
  cases replies : rules.run depth parser site memory cursor with
  | none =>
      rw [rules.run_eq_none rfl [] replies]
      rfl
  | some reply =>
      obtain ⟨answer, answers, outcome, memory, texts⟩ := rules.run_elsewhere replies []
      rw [answers]
      simp [tried, parts, Part.left, outcome, memory, texts]

/-- A choice tries the alternatives on its left, and then those on its right. -/
theorem tried_pair (rules : Rules τ Out) (depth : Nat) (first second : Alternatives τ Out α)
    (site : Site) (memory : Memory) (cursor : Cursor τ) :
    (rules.run depth (pair first second).parser site memory cursor).map
        (pair first second).tried =
      Tried.orElse
        ((rules.run depth first.parser (.left :: site) memory.left cursor).map first.tried)
        (second.parts memory.right)
        ((rules.run depth second.parser (.right :: site) memory.right cursor).map
          second.tried) := by
  have choice : rules.run depth (pair first second).parser =
      Attempt.choice (rules.run depth first.parser).onLeft
        (rules.run depth second.parser).onRight := rfl
  rw [choice]
  simp only [Attempt.choice, Attempt.onLeft, Attempt.onRight]
  cases rules.run depth first.parser (.left :: site) memory.left cursor with
  | none => rfl
  | some reply =>
      rcases reply with ⟨outcome, inner, log⟩
      cases outcome with
      | ok found => simp [tried, parts, Tried.orElse, Reply.texts]
      | error error =>
          cases behind : rules.run depth second.parser (.right :: site) memory.right cursor with
          | none => simp [behind, Tried.orElse, tried]
          | some next =>
              rcases next with ⟨outcome, inner, log⟩
              cases outcome <;> simp [behind, tried, parts, Tried.orElse, Reply.texts]

/-- Whatever their form, alternatives are tried one after the other. -/
theorem tried_run (rules : Rules τ Out) (depth : Nat) (tree : Alternatives τ Out α)
    (site : Site) (memory : Memory) (cursor : Cursor τ) :
    (rules.run depth tree.parser site memory cursor).map tree.tried =
      Part.tryAll rules depth cursor (tree.parts memory) := by
  induction tree generalizing site memory with
  | single parser => exact tried_single rules depth parser site memory cursor
  | pair first second firstIH secondIH =>
      rw [tried_pair, firstIH, secondIH, parts,
        Part.tryAll_append (first.parts_ne_nil _) (second.parts_ne_nil _)]

section

variable {rules : Rules τ Out} {depth : Nat} {tree : Alternatives τ Out α} {site : Site}
variable {memory : Memory} {cursor : Cursor τ}

/-- What is known of trying the alternatives is known of running them all. -/
theorem reply_of_tryAll {outcome : Outcome τ α} {texts : List String}
    {parts : List (Part τ Out α)}
    (trial : Part.tryAll rules depth cursor (tree.parts memory) = some ⟨outcome, texts, parts⟩) :
    ∃ reply, rules.run depth tree.parser site memory cursor = some reply ∧
      reply.outcome = outcome ∧ reply.texts = texts ∧ tree.parts reply.memory = parts := by
  rw [← tried_run rules depth tree site memory cursor] at trial
  obtain ⟨reply, replies, same⟩ := Option.map_eq_some_iff.mp trial
  cases same
  exact ⟨reply, replies, rfl, rfl, rfl⟩

/-- Failures of parts that are run at the same place are as far on as little is left. -/
theorem position_le {parts : List (Part τ Out α)} {replies : List (Reply τ α)}
    {errors : List (ParseError τ)} {error other : ParseError τ}
    (replied : parts.map (Part.run rules depth cursor) = replies.map some)
    (failed : replies.map Reply.outcome = errors.map .error)
    (member : error ∈ errors) (otherMember : other ∈ errors)
    (further : error.remainingLength ≤ other.remainingLength) :
    other.position ≤ error.position := by
  have total {error : ParseError τ} (member : error ∈ errors) :
      error.position + error.remainingLength = cursor.length := by
    have outcome : .error error ∈ replies.map Reply.outcome := by
      rw [failed]
      exact List.mem_map_of_mem member
    obtain ⟨reply, made, same⟩ := List.mem_map.mp outcome
    have run : some reply ∈ parts.map (Part.run rules depth cursor) := by
      rw [replied]
      exact List.mem_map_of_mem made
    obtain ⟨part, _, ran⟩ := List.mem_map.mp run
    have leads : cursor.LeadsTo reply.outcome.place :=
      rules.forward_reading depth part.parser _ _ (rules.reading_of_run ran)
    rw [same] at leads
    rw [← leads.length_eq]
    exact error.remainder.position_add_remainingLength
  have sum := total member
  have otherSum := total otherMember
  omega

end

/-- A choice among alternatives, put together in any form, tries them in order, each of
them at the start and once. It ends with the first success, and the alternatives behind it
are not touched. If there is none, it ends with the failure that got furthest, the last
one of those. So another form of the same alternatives does the same. -/
theorem run_in_order (rules : Rules τ Out) (depth : Nat) (tree : Alternatives τ Out α)
    (site : Site) (memory : Memory) (cursor : Cursor τ) :
    (∀ failures success others found,
      (tree.parts memory).map (Part.run rules depth cursor) =
        failures.map some ++ some success :: others →
      (∀ failure ∈ failures, ∃ error, failure.outcome = .error error) →
      success.outcome = .ok found →
      ∃ reply, rules.run depth tree.parser site memory cursor = some reply ∧
        reply.outcome = .ok found ∧
        reply.texts = (failures ++ [success]).flatMap Reply.texts ∧
        tree.parts reply.memory =
          List.zipWith Part.left (tree.parts memory) (failures ++ [success]) ++
            (tree.parts memory).drop (failures.length + 1)) ∧
    (∀ replies errors,
      (tree.parts memory).map (Part.run rules depth cursor) = replies.map some →
      replies.map Reply.outcome = errors.map .error →
      ∃ reply error, rules.run depth tree.parser site memory cursor = some reply ∧
        reply.outcome = .error error ∧ ParseError.IsFurthest errors error ∧
        (∀ other ∈ errors, other.position ≤ error.position) ∧
        reply.texts = replies.flatMap Reply.texts ∧
        tree.parts reply.memory = List.zipWith Part.left (tree.parts memory) replies) ∧
    ∀ (other : Alternatives τ Out α) (otherSite : Site) (otherMemory : Memory),
      other.parts otherMemory = tree.parts memory →
      (rules.run depth other.parser otherSite otherMemory cursor).map other.tried =
        (rules.run depth tree.parser site memory cursor).map tree.tried := by
  refine ⟨?success, ?failures, ?regrouped⟩
  case success =>
    intro failures success others found replied failed succeeded
    exact reply_of_tryAll (Part.tryAll_of_success replied failed succeeded)
  case failures =>
    intro replies errors replied failed
    obtain ⟨error, furthest, trial⟩ :=
      Part.tryAll_of_failures (tree.parts_ne_nil memory) replied failed
    obtain ⟨reply, ran, outcome, texts, parts⟩ := reply_of_tryAll trial
    refine ⟨reply, error, ran, outcome, furthest, ?_, texts, parts⟩
    intro other member
    exact position_le replied failed furthest.mem member (furthest.remainingLength_le member)
  case regrouped =>
    intro other otherSite otherMemory same
    rw [tried_run, tried_run, same]

/-- Three alternatives. Behind an `a`, the first one misses a `b` where the last one asks
for something impossible. -/
def letters : Alternatives Char (fun _ : Unit => Nat) Char :=
  .pair
    (.pair (.single (.discardRight (.token 'a') (.token 'b'))) (.single (.token 'c')))
    (.single (.discardRight (.token 'a') (.count ⟨-1, none⟩ .unit (.pure ()))))

/-- The last failure is reported, because it got as far as the first one. -/
theorem run_in_order_letters :
    ∃ reply error, Rules.brackets.run 0 letters.parser [] .blank (.start ⟨0, #['a', 'x']⟩) =
        some reply ∧ reply.outcome = .error error ∧ error.position = 1 ∧
      error.cause = .negativeCount (-1) := by
  let start : Cursor Char := .start ⟨0, #['a', 'x']⟩
  let errors : List (ParseError Char) :=
    [.mismatch (start.advance 1) "b" "x", .mismatch start "c" "a",
      ⟨start.advance 1, .negativeCount (-1)⟩]
  let replies : List (Reply Char Char) :=
    [⟨.error (.mismatch (start.advance 1) "b" "x"), .split .blank .blank, #[]⟩,
      ⟨.error (.mismatch start "c" "a"), .blank, #[]⟩,
      ⟨.error ⟨start.advance 1, .negativeCount (-1)⟩, .split .blank .blank, #[]⟩]
  have replied : (letters.parts .blank).map (Part.run Rules.brackets 0 start) =
      replies.map some := rfl
  have failed : replies.map Reply.outcome = errors.map .error := rfl
  obtain ⟨_, failures, _⟩ := letters.run_in_order Rules.brackets 0 [] .blank start
  obtain ⟨reply, error, ran, outcome, furthest, _⟩ := failures replies errors replied failed
  have last : ParseError.IsFurthest errors ⟨start.advance 1, .negativeCount (-1)⟩ :=
    ⟨errors.take 2, [], rfl, by decide, nofun⟩
  cases furthest.eq last
  exact ⟨reply, _, ran, outcome, rfl, rfl⟩

end Alternatives

end Descent
