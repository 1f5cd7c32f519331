import Descent.Proofs.Quota
import Descent.Proofs.Row
import Descent.Proofs.Termination

/-!
# Repetitions, match by match

What a repetition does is told by the matches of the parser that it repeats: it takes them one
behind the other until something stops it. Without a limit that is a failure of the parser, or
a match of nothing; with a limit it is the limit or a failure. A mismatch ends a repetition
well once the matches that it requires are there, and any other failure is the failure of the
repetition.

All repetitions are one loop, which requires some matches and takes some more. Its course is
described once, and the statements about repetitions from zero and about repetitions within
bounds are read off from that.
-/

namespace Descent

variable {τ α γ : Type}

/-- A repetition may take these matches: they are not too many, and if as many are taken as there
are, then none is empty behind those that are required. -/
structure Quota.Allows (quota : Quota) (cursor : Cursor τ) (row : List (Match τ α)) : Prop where
  within : ∀ most, quota.most = some most → row.length ≤ most
  moving : quota.most = none → Match.Moving ((Match.places cursor row).drop quota.required)

namespace Quota

variable {quota : Quota} {taken : Nat}

/-- Fewer matches than required are never too many, and none of them has to move. -/
theorem allows_of_short {cursor : Cursor τ} {row : List (Match τ α)}
    (short : row.length < quota.required) : quota.Allows cursor row where
  within most bounded := by
    have required := required_le_most bounded
    omega
  moving _ := by
    rw [List.drop_of_length_le]
    · exact .nil
    · rw [Match.places, List.length_cons, List.length_map]
      exact short

/-- Without any bounds the matches have to move, and that is all. -/
theorem allows_unbounded_iff {cursor : Cursor τ} {row : List (Match τ α)} :
    Quota.Allows ⟨0, none⟩ cursor row ↔ Match.Moving (Match.places cursor row) :=
  ⟨fun allowed => allowed.moving rfl, fun moving => ⟨nofun, fun _ => moving⟩⟩

theorem ne_most_of_lt (short : taken < quota.required) : quota.most ≠ some taken := by
  intro full
  have required := required_le_most full
  omega

theorem left_eq_zero_iff (within : ∀ most, quota.most = some most → taken ≤ most) :
    quota.most.map (· - taken) = some 0 ↔ quota.most = some taken := by
  cases bounded : quota.most with
  | none => simp
  | some most =>
      have more := within most bounded
      simp only [Option.map_some, Option.some.injEq]
      omega

end Quota

namespace Attempt.Loop

/-- The loop of all repetitions: it requires some matches and takes some more. -/
def repeated (attempt : Attempt τ α) (push : γ → α → γ) (site : Site) (quota : Quota) :
    Loop τ γ → Option (Reply τ γ) :=
  required attempt push site (extra attempt push site quota.extra) quota.required

/-- The loop ends here, after a number of matches: with the failure of the attempt if matches
are missing, and else in one of the ways in which loops halt. -/
inductive Ceases (attempt : Attempt τ α) (site : Site) (quota : Quota) (taken : Nat)
    (loop : Loop τ γ) : Reply τ γ → Prop where
  | missing {error : ParseError τ} {memory : Memory} {log : Log}
      (short : taken < quota.required)
      (replies : attempt site loop.memory loop.cursor = some ⟨.error error, memory, log⟩) :
      Ceases attempt site quota taken loop (loop.abort error memory log)
  | enough {reply : Reply τ γ} (enough : quota.required ≤ taken)
      (halts : Halts attempt site (quota.most.map (· - taken)) loop reply) :
      Ceases attempt site quota taken loop reply

variable {attempt : Attempt τ α} {push : γ → α → γ} {site : Site} {quota : Quota} {taken : Nat}
variable {loop last : Loop τ γ} {row : List (Match τ α)} {reply : Reply τ γ}

/-- Where the loop ends, the attempt is made once more, unless all that may be taken is. -/
theorem Ceases.visits_eq {label : String} (tapped : attempt.Tapped label)
    (within : ∀ most, quota.most = some most → taken ≤ most)
    (ceases : Ceases attempt site quota taken last reply) :
    reply.log.visits label = last.log.visits label ++
      if quota.most = some taken then [] else [last.cursor.position] := by
  cases ceases with
  | missing short replies =>
      rw [if_neg (Quota.ne_most_of_lt short)]
      simp [abort, tapped _ _ _ _ replies]
  | enough _ halts =>
      rw [halts.visits_eq tapped]
      simp only [Quota.left_eq_zero_iff within]

/-- Behind the matches that it requires, the loop goes on to take as many as are left. -/
theorem repeated_of_takes (forward : attempt.Forward)
    (takes : Takes attempt push site loop row last) (enough : quota.required ≤ row.length)
    (allowed : quota.Allows loop.cursor row) :
    loop.repeated attempt push site quota =
      last.extra attempt push site (quota.most.map (· - row.length)) := by
  have length : (row.take quota.required).length = quota.required :=
    List.length_take_of_le enough
  have left : quota.most.map (· - row.length) =
      quota.extra.map (· - (row.drop quota.required).length) := by
    rw [Quota.most, Option.map_map, List.length_drop]
    congr 1
    funext limit
    simp only [Function.comp_apply]
    omega
  have whole := takes
  rw [← List.take_append_drop quota.required row] at whole
  obtain ⟨middle, front, back⟩ := whole.split
  have moving (unlimited : quota.extra = none) :
      Match.Moving (Match.places middle.cursor (row.drop quota.required)) := by
    have places := Match.drop_places loop.cursor (row.take quota.required)
      (row.drop quota.required)
    rw [List.take_append_drop, length] at places
    rw [front.cursor_eq, ← places]
    exact allowed.moving (Option.map_eq_none_iff.mpr unlimited)
  have within limit (limited : quota.extra = some limit) :
      (row.drop quota.required).length ≤ limit := by
    have most := allowed.within _ (Option.map_eq_some_iff.mpr ⟨limit, limited, rfl⟩)
    rw [List.length_drop]
    omega
  calc loop.repeated attempt push site quota
      = loop.required attempt push site (extra attempt push site quota.extra)
          ((row.take quota.required).length + 0) := by
        rw [repeated, length, Nat.add_zero]
    _ = middle.extra attempt push site quota.extra := required_of_takes front 0
    _ = last.extra attempt push site (quota.most.map (· - row.length)) := by
        rw [left]
        exact extra_of_takes forward back moving within

/-- The loop takes what it may and replies as it ends. -/
theorem repeated_of_ceases (forward : attempt.Forward)
    (takes : Takes attempt push site loop row last) (allowed : quota.Allows loop.cursor row)
    (ceases : Ceases attempt site quota row.length last reply) :
    loop.repeated attempt push site quota = some reply := by
  cases ceases with
  | missing short replies =>
      have missing : quota.required = row.length + (quota.required - row.length - 1 + 1) := by
        omega
      rw [repeated, missing, required_of_takes takes, required_of_error replies]
  | enough enough halts =>
      rw [repeated_of_takes forward takes enough allowed]
      exact extra_of_halts forward halts

/-- When the loop has replied, it has taken what it may and ended. -/
theorem takes_of_repeated (forward : attempt.Forward)
    (replies : loop.repeated attempt push site quota = some reply) :
    ∃ row last, Takes attempt push site loop row last ∧ quota.Allows loop.cursor row ∧
      Ceases attempt site quota row.length last reply := by
  rcases takes_of_required replies with
    ⟨front, middle, frontTakes, length, more⟩ |
    ⟨row, last, error, memory, log, takes, short, failed, rfl⟩
  case inr =>
    exact ⟨row, last, takes, Quota.allows_of_short short, .missing short failed⟩
  case inl =>
    obtain ⟨back, last, backTakes, moving, within, halts⟩ := takes_of_extra forward more
    have left : quota.extra.map (· - back.length) =
        quota.most.map (· - (front ++ back).length) := by
      rw [Quota.most, Option.map_map, List.length_append, length]
      congr 1
      funext limit
      exact (Nat.add_sub_add_left _ _ _).symm
    have enough : quota.required ≤ (front ++ back).length := by
      rw [List.length_append]
      omega
    have allowed : quota.Allows loop.cursor (front ++ back) := by
      constructor
      · intro most bounded
        obtain ⟨limit, limited, rfl⟩ := Option.map_eq_some_iff.mp bounded
        rw [List.length_append, length]
        exact Nat.add_le_add_left (within limit limited) _
      · intro unbounded
        rw [← length, Match.drop_places, ← frontTakes.cursor_eq]
        exact moving (Option.map_eq_none_iff.mp unbounded)
    rw [left] at halts
    exact ⟨front ++ back, last, frontTakes.append backTakes, allowed, .enough enough halts⟩

end Attempt.Loop

namespace Rules

open Attempt (Loop)

variable {τ ρ : Type} [Token τ] {Out : ρ → Type} {α γ : Type}

/-- A repetition that has gathered something from a number of matches ends at this place. It
ends well if it has taken all it may, or with a mismatch once it has all it requires. Any other
failure is the failure of the repetition, and so is a match of nothing that could be taken
forever. -/
inductive Closes (rules : Rules τ Out) (parser : Parser τ Out α) (quota : Quota) (taken : Nat)
    (items : γ) (last : Cursor τ) : Outcome τ γ → Prop where
  | full (full : quota.most = some taken) :
      Closes rules parser quota taken items last (.ok ⟨items, last⟩)
  | mismatch {error : ParseError τ} (enough : quota.required ≤ taken)
      (notFull : quota.most ≠ some taken) (ends : rules.Ends parser last (.error error))
      (recoverable : error.isRecoverable = true) :
      Closes rules parser quota taken items last (.ok ⟨items, last⟩)
  | failure {error : ParseError τ} (notFull : quota.most ≠ some taken)
      (ends : rules.Ends parser last (.error error))
      (final : taken < quota.required ∨ error.isRecoverable = false) :
      Closes rules parser quota taken items last (.error error)
  | standstill {value : α} (enough : quota.required ≤ taken) (unbounded : quota.most = none)
      (ends : rules.Ends parser last (.ok ⟨value, last⟩)) :
      Closes rules parser quota taken items last (.error ⟨last, .noProgress⟩)

/-- The course of a repetition: it takes these matches from a first place to a last one, and
there it ends with this outcome. -/
structure Repeats (rules : Rules τ Out) (parser : Parser τ Out α) (collector : Collector α γ)
    (quota : Quota) (cursor : Cursor τ) (row : List (Match τ α)) (last : Cursor τ)
    (outcome : Outcome τ γ) : Prop where
  matched : rules.Row parser cursor row last
  allowed : quota.Allows cursor row
  closes : rules.Closes parser quota row.length (collector.collect (row.map Match.value)) last
    outcome

variable {rules : Rules τ Out} {parser : Parser τ Out α} {collector : Collector α γ}
variable {quota : Quota} {cursor last : Cursor τ} {row : List (Match τ α)}
variable {outcome : Outcome τ γ} {depth taken : Nat} {site : Site}

/-! ## Loops and courses -/

section Loops

variable {items : γ}

/-- A loop with these items at this place ends, and so the repetition closes there. -/
theorem Closes.of_ceases (within : ∀ most, quota.most = some most → taken ≤ most)
    {loop : Loop τ γ} {reply : Reply τ γ}
    (ceases : Loop.Ceases (rules.run depth parser) site quota taken loop reply) :
    rules.Closes parser quota taken loop.items loop.cursor reply.outcome := by
  cases ceases with
  | missing short replies =>
      exact .failure (Quota.ne_most_of_lt short) (ends_of_run replies) (.inl short)
  | enough enough halts =>
      have full := Quota.left_eq_zero_iff within
      generalize left : quota.most.map (· - taken) = limit at full halts
      cases halts with
      | full => exact .full (full.mp rfl)
      | mismatch notFull replies recoverable =>
          exact .mismatch enough (mt full.mpr notFull) (ends_of_run replies) recoverable
      | failure notFull replies final =>
          exact .failure (mt full.mpr notFull) (ends_of_run replies) (.inr final)
      | standstill replies still =>
          have ends := ends_of_run replies
          dsimp only at ends
          rw [← still] at ends ⊢
          exact .standstill enough (Option.map_eq_none_iff.mp left) ends

/-- Where the repetition closes, each loop with these items ends that is nested deep enough. -/
theorem Closes.ceases (closes : rules.Closes parser quota taken items last outcome)
    (within : ∀ most, quota.most = some most → taken ≤ most) :
    ∃ depth, ∀ deeper, depth ≤ deeper → ∀ site (loop : Loop τ γ), loop.items = items →
      loop.cursor = last → ∃ reply,
        Loop.Ceases (rules.run deeper parser) site quota taken loop reply ∧
          reply.outcome = outcome := by
  have full := Quota.left_eq_zero_iff within
  cases closes with
  | full reached =>
      have enough := Quota.required_le_most reached
      refine ⟨0, ?_⟩
      rintro deeper _ site loop rfl rfl
      refine ⟨loop.succeed loop.memory #[], .enough enough ?_, rfl⟩
      rw [full.mpr reached]
      exact .full loop
  | mismatch enough notFull ends recoverable =>
      obtain ⟨depth, replies⟩ := ends
      refine ⟨depth, ?_⟩
      rintro deeper deep site loop rfl rfl
      obtain ⟨⟨_, memory, log⟩, answers, rfl⟩ := replies deeper deep site loop.memory
      exact ⟨_, .enough enough (.mismatch (mt full.mp notFull) answers recoverable), rfl⟩
  | failure notFull ends final =>
      obtain ⟨depth, replies⟩ := ends
      refine ⟨depth, ?_⟩
      rintro deeper deep site loop rfl rfl
      obtain ⟨⟨_, memory, log⟩, answers, rfl⟩ := replies deeper deep site loop.memory
      rcases Nat.lt_or_ge taken quota.required with short | enough
      · exact ⟨_, .missing short answers, rfl⟩
      · have final := final.resolve_left (Nat.not_lt.mpr enough)
        exact ⟨_, .enough enough (.failure (mt full.mp notFull) answers final), rfl⟩
  | standstill enough unbounded ends =>
      obtain ⟨depth, replies⟩ := ends
      refine ⟨depth, ?_⟩
      rintro deeper deep site loop rfl rfl
      obtain ⟨⟨_, memory, log⟩, answers, rfl⟩ := replies deeper deep site loop.memory
      refine ⟨loop.abort ⟨loop.cursor, .noProgress⟩ memory log, .enough enough ?_, rfl⟩
      rw [unbounded]
      exact .standstill answers rfl

end Loops

/-- A loop that ends has taken its course. It has looked for each match once, and once more
where it ends, unless it has taken all that it may. -/
theorem repeats_of_repeated {memory : Memory} {reply : Reply τ γ}
    (replies : Loop.repeated (rules.run depth parser) collector.push site quota
      (.start collector.start memory cursor) = some reply) :
    ∃ row last, rules.Repeats parser collector quota cursor row last reply.outcome ∧
      ∀ label, (rules.run depth parser).Tapped label →
        reply.log.visits label =
          if quota.most = some row.length then
            (Match.places cursor row).dropLast.map Cursor.position
          else
            (Match.places cursor row).map Cursor.position := by
  obtain ⟨row, final, takes, allowed, ceases⟩ :=
    Loop.takes_of_repeated (rules.forward_run depth parser) replies
  have closes := Closes.of_ceases allowed.within ceases
  have stands : final.cursor = Match.behind cursor row := takes.cursor_eq
  rw [takes.items_eq] at closes
  refine ⟨row, final.cursor, ⟨Row.of_takes takes, allowed, closes⟩, ?_⟩
  intro label tapped
  rw [ceases.visits_eq tapped allowed.within, takes.visits_eq tapped, stands]
  split
  · exact List.append_nil _
  · conv => rhs; rw [Match.places_eq, List.map_append]
    rfl

/-- Each course is taken by the loop, at all depths that are great enough. -/
theorem repeated_of_repeats
    (repeats : rules.Repeats parser collector quota cursor row last outcome) :
    ∃ depth, ∀ deeper, depth ≤ deeper → ∀ site memory, ∃ reply,
      Loop.repeated (rules.run deeper parser) collector.push site quota
        (.start collector.start memory cursor) = some reply ∧ reply.outcome = outcome := by
  obtain ⟨matched, allowed, closes⟩ := repeats
  obtain ⟨rowDepth, rowTakes⟩ := matched.takes collector.push
  obtain ⟨endDepth, ceases⟩ := closes.ceases allowed.within
  refine ⟨max rowDepth endDepth, fun deeper deep site memory => ?_⟩
  obtain ⟨final, takes⟩ := rowTakes deeper (Nat.le_trans (Nat.le_max_left _ _) deep) site
    (.start collector.start memory cursor) rfl
  obtain ⟨reply, ceases, same⟩ := ceases deeper (Nat.le_trans (Nat.le_max_right _ _) deep) site
    final takes.items_eq (takes.cursor_eq.trans matched.last_eq.symm)
  have forward := rules.forward_run deeper parser
  exact ⟨reply, Loop.repeated_of_ceases forward takes allowed ceases, same⟩

/-- A course cannot go on from where it closes. -/
theorem Repeats.eq_of_append
    (repeats : rules.Repeats parser collector quota cursor row last outcome)
    {others : List (Match τ α)} {otherLast : Cursor τ} {otherOutcome : Outcome τ γ}
    (longer : rules.Repeats parser collector quota cursor (row ++ others) otherLast otherOutcome) :
    others = [] := by
  cases others with
  | nil => rfl
  | cons found more =>
      have onward := longer.matched.split.2
      rw [← repeats.matched.last_eq] at onward
      have goesOn : rules.Ends parser last (.ok found) := by
        cases onward with
        | cons ends more => exact ends
      cases repeats.closes with
      | full full =>
          have within := longer.allowed.within _ full
          rw [List.length_append, List.length_cons] at within
          omega
      | mismatch _ _ ends _ => cases ends.unique goesOn
      | failure _ ends _ => cases ends.unique goesOn
      | standstill enough unbounded ends =>
          cases ends.unique goesOn
          have moving := (longer.allowed.moving unbounded).drop (row.length - quota.required)
          rw [List.drop_drop, Nat.add_sub_cancel' enough, Match.drop_places,
            ← repeats.matched.last_eq] at moving
          exact absurd rfl (Match.moving_cons.mp moving).1

/-- There is no second course. -/
theorem Repeats.unique (repeats : rules.Repeats parser collector quota cursor row last outcome)
    {others : List (Match τ α)} {otherLast : Cursor τ} {otherOutcome : Outcome τ γ}
    (other : rules.Repeats parser collector quota cursor others otherLast otherOutcome) :
    others = row := by
  rcases repeats.matched.eq_append_or other.matched with ⟨more, rfl⟩ | ⟨more, rfl⟩
  · rw [repeats.eq_of_append other, List.append_nil]
  · rw [other.eq_of_append repeats, List.append_nil]

/-- A tap does not change the course of a repetition. -/
theorem Repeats.of_tap {label : String}
    (repeats : rules.Repeats (.tap label parser) collector quota cursor row last outcome) :
    rules.Repeats parser collector quota cursor row last outcome := by
  obtain ⟨matched, allowed, closes⟩ := repeats
  refine ⟨(Row.tap_iff label).mp matched, allowed, ?_⟩
  cases closes with
  | full full => exact .full full
  | mismatch enough notFull ends recoverable =>
      exact .mismatch enough notFull ((ends_tap label).mp ends) recoverable
  | failure notFull ends final => exact .failure notFull ((ends_tap label).mp ends) final
  | standstill enough unbounded ends =>
      exact .standstill enough unbounded ((ends_tap label).mp ends)

/-- The parser is run once for each match of the course, and once more where it ends, unless
the repetition has all that it may take. -/
theorem Repeats.visits_eq {label : String} (silent : rules.Silent label parser)
    (repeats : rules.Repeats parser collector quota cursor row last outcome) {memory : Memory}
    {reply : Reply τ γ}
    (replies : Loop.repeated (rules.run depth (.tap label parser)) collector.push site quota
      (.start collector.start memory cursor) = some reply) :
    reply.log.visits label =
      if quota.most = some row.length then
        (Match.places cursor row).dropLast.map Cursor.position
      else
        (Match.places cursor row).map Cursor.position := by
  obtain ⟨others, otherLast, other, visits⟩ := repeats_of_repeated replies
  rw [visits label (silent.tapped depth), repeats.unique other.of_tap]

/-- A course ends well with all that it requires, once it has all that it may take or with a
mismatch behind what it has. -/
theorem repeats_ok_iff {gathered : γ} :
    (∃ place, rules.Repeats parser collector quota cursor row place (.ok ⟨gathered, last⟩)) ↔
      (rules.Row parser cursor row last ∧ quota.Allows cursor row) ∧
        gathered = collector.collect (row.map Match.value) ∧ quota.required ≤ row.length ∧
        (quota.most = some row.length ∨
          ∃ error, rules.Ends parser last (.error error) ∧ error.isRecoverable = true) := by
  constructor
  · rintro ⟨place, matched, allowed, closes⟩
    cases closes with
    | full full => exact ⟨⟨matched, allowed⟩, rfl, Quota.required_le_most full, .inl full⟩
    | mismatch enough _ ends recoverable =>
        exact ⟨⟨matched, allowed⟩, rfl, enough, .inr ⟨_, ends, recoverable⟩⟩
  · rintro ⟨⟨matched, allowed⟩, rfl, enough, stops⟩
    refine ⟨last, matched, allowed, ?_⟩
    by_cases full : quota.most = some row.length
    · exact .full full
    · obtain ⟨error, ends, recoverable⟩ := stops.resolve_left full
      exact .mismatch enough full ends recoverable

/-- A course fails with any failure in place of a match that it requires, with a failure behind
these that is no mismatch, or where it stands still. -/
theorem repeats_error_iff {error : ParseError τ} :
    rules.Repeats parser collector quota cursor row last (.error error) ↔
      (rules.Row parser cursor row last ∧ quota.Allows cursor row) ∧
        (¬ quota.required ≤ row.length ∧ rules.Ends parser last (.error error) ∨
          quota.required ≤ row.length ∧ quota.most ≠ some row.length ∧
            rules.Ends parser last (.error error) ∧ error.isRecoverable = false ∨
          quota.required ≤ row.length ∧ quota.most = none ∧
            (∃ value, rules.Ends parser last (.ok ⟨value, last⟩)) ∧
            error = ⟨last, .noProgress⟩) := by
  constructor
  · rintro ⟨matched, allowed, closes⟩
    refine ⟨⟨matched, allowed⟩, ?_⟩
    cases closes with
    | failure notFull ends final =>
        by_cases enough : quota.required ≤ row.length
        · have final := final.resolve_left (Nat.not_lt.mpr enough)
          exact .inr (.inl ⟨enough, notFull, ends, final⟩)
        · exact .inl ⟨enough, ends⟩
    | standstill enough unbounded ends => exact .inr (.inr ⟨enough, unbounded, ⟨_, ends⟩, rfl⟩)
  · rintro ⟨⟨matched, allowed⟩, ⟨missing, ends⟩ | ⟨enough, notFull, ends, final⟩ |
      ⟨enough, unbounded, ⟨value, ends⟩, rfl⟩⟩
    · have short := Nat.not_le.mp missing
      exact ⟨matched, allowed, .failure (Quota.ne_most_of_lt short) ends (.inl short)⟩
    · exact ⟨matched, allowed, .failure notFull ends (.inr final)⟩
    · exact ⟨matched, allowed, .standstill enough unbounded ends⟩

/-! ## Repetitions -/

/-- How a parser ends that runs as a repetition does: at the end of a course. -/
theorem ends_iff_repeats {whole : Parser τ Out γ}
    (loops : ∀ depth site memory cursor, rules.run depth whole site memory cursor =
      Loop.repeated (rules.run depth parser) collector.push site quota
        (.start collector.start memory cursor)) :
    rules.Ends whole cursor outcome ↔
      ∃ row last, rules.Repeats parser collector quota cursor row last outcome := by
  constructor
  · rintro ⟨depth, deeper⟩
    obtain ⟨reply, replies, rfl⟩ := deeper depth (Nat.le_refl depth) [] .blank
    rw [loops] at replies
    obtain ⟨row, last, repeats, _⟩ := repeats_of_repeated replies
    exact ⟨row, last, repeats⟩
  · rintro ⟨row, last, repeats⟩
    obtain ⟨depth, replies⟩ := repeated_of_repeats repeats
    refine ⟨depth, fun deeper deep site memory => ?_⟩
    rw [loops]
    exact replies deeper deep site memory

theorem run_zeroOrMore (rules : Rules τ Out) (parser : Parser τ Out α)
    (collector : Collector α γ) (depth : Nat) (site : Site) (memory : Memory)
    (cursor : Cursor τ) :
    rules.run depth (.zeroOrMore collector parser) site memory cursor =
      Loop.repeated (rules.run depth parser) collector.push site ⟨0, none⟩
        (.start collector.start memory cursor) :=
  rfl

theorem run_count {bounds : Bounds} (valid : bounds.quota = .ok quota) (rules : Rules τ Out)
    (parser : Parser τ Out α) (collector : Collector α γ) (depth : Nat) (site : Site)
    (memory : Memory) (cursor : Cursor τ) :
    rules.run depth (.count bounds collector parser) site memory cursor =
      Loop.repeated (rules.run depth parser) collector.push site quota
        (.start collector.start memory cursor) := by
  obtain ⟨required, extra⟩ := quota
  simp only [run, Parser.attempt, Attempt.count, valid, Loop.repeated]
  cases extra <;> rfl

/-- Where the parser fails, a repetition can close, unless it has all that it may take. -/
theorem exists_closes {error : ParseError τ} (ends : rules.Ends parser last (.error error))
    (notFull : quota.most ≠ some taken) (items : γ) :
    ∃ outcome, rules.Closes parser quota taken items last outcome := by
  rcases Nat.lt_or_ge taken quota.required with short | enough
  · exact ⟨_, .failure notFull ends (.inl short)⟩
  · cases recoverable : error.isRecoverable with
    | true => exact ⟨_, .mismatch enough notFull ends recoverable⟩
    | false => exact ⟨_, .failure notFull ends (.inr recoverable)⟩

/-- Where the parser does not get on, a repetition without an upper bound can close. -/
theorem Stays.exists_closes (stays : rules.Stays parser last) (unbounded : quota.most = none)
    (enough : quota.required ≤ taken) (items : γ) :
    ∃ outcome, rules.Closes parser quota taken items last outcome := by
  obtain ⟨outcome, ends, still⟩ := stays
  cases outcome with
  | error error =>
      have notFull : quota.most ≠ some taken := by
        rw [unbounded]
        exact nofun
      exact Rules.exists_closes ends notFull items
  | ok found =>
      obtain ⟨value, rest⟩ := found
      cases still _ rfl
      exact ⟨_, .standstill enough unbounded ends⟩

section Total

variable (total : ∀ start, ∃ outcome, rules.Ends parser start outcome)

include total

/-- A repetition of a parser that ends everywhere ends everywhere. -/
theorem exists_repeats (collector : Collector α γ) (quota : Quota) (cursor : Cursor τ) :
    ∃ row last outcome, rules.Repeats parser collector quota cursor row last outcome := by
  cases bounded : quota.most with
  | some most =>
      obtain ⟨row, last, matched, within, fails⟩ := exists_row total most cursor
      have allowed : quota.Allows cursor row := by
        constructor
        · intro other same
          cases bounded.symm.trans same
          exact within
        · intro unbounded
          cases bounded.symm.trans unbounded
      rcases Nat.lt_or_eq_of_le within with short | full
      · obtain ⟨error, ends⟩ := fails short
        have notFull : quota.most ≠ some row.length := by
          rw [bounded]
          intro same
          cases same
          exact absurd short (Nat.lt_irrefl _)
        obtain ⟨outcome, closes⟩ := exists_closes ends notFull _
        exact ⟨row, last, outcome, matched, allowed, closes⟩
      · exact ⟨row, last, _, matched, allowed, .full (full ▸ bounded)⟩
  | none =>
      have notFull (taken : Nat) : quota.most ≠ some taken := by
        rw [bounded]
        exact nofun
      obtain ⟨front, middle, frontMatched, within, fails⟩ :=
        exists_row total quota.required cursor
      rcases Nat.lt_or_eq_of_le within with short | length
      · obtain ⟨error, ends⟩ := fails short
        obtain ⟨outcome, closes⟩ := exists_closes ends (notFull front.length) _
        exact ⟨front, middle, outcome, frontMatched, Quota.allows_of_short short, closes⟩
      · obtain ⟨back, last, backMatched, moving, stays⟩ := exists_course total middle
        have allowed : quota.Allows cursor (front ++ back) := by
          constructor
          · intro most same
            cases bounded.symm.trans same
          · intro _
            rw [← length, Match.drop_places, ← frontMatched.last_eq]
            exact moving
        have enough : quota.required ≤ (front ++ back).length := by
          rw [List.length_append]
          omega
        obtain ⟨outcome, closes⟩ := stays.exists_closes bounded enough _
        exact ⟨front ++ back, last, outcome, frontMatched.append backMatched, allowed, closes⟩

end Total

end Rules

end Descent
