import Descent.Proofs.Lockstep
import Descent.Run.Store

/-!
# Runs that remember

A run only ever adds to what has been built. What it adds is what it logs, and each part
is logged once.

Two runs of one parser are compared: one in a store, and one in another store that has
built more. The second run ends as the first one does, logs what the first one logs except
for parts that had been built before, and leaves a store that has built as much more. So
nothing that is remembered is lost, and nothing of it shows but in the log.
-/

namespace Descent

namespace Site

theorem isOf_cons {number : Nat} {site : Site} (part : site.isOf number = true)
    (turn : Turn) : Site.isOf number (turn :: site) = true := by
  cases site with
  | nil => cases part
  | cons last rest =>
      rw [isOf, List.getLast?_cons_cons]
      exact part

/-- A part belongs to one parser value only. -/
theorem isOf_unique {number other : Nat} {site : Site} (part : site.isOf number = true)
    (same : site.isOf other = true) : other = number := by
  simp only [isOf, beq_iff_eq] at part same
  rw [part] at same
  cases same
  rfl

/-- The part belongs to a parser value with such a number. -/
def IsAmong (owners : Nat → Prop) (site : Site) : Prop :=
  ∃ number, owners number ∧ site.isOf number = true

theorem IsAmong.cons {owners : Nat → Prop} {site : Site} (among : site.IsAmong owners)
    (turn : Turn) : IsAmong owners (turn :: site) := by
  obtain ⟨number, owner, part⟩ := among
  exact ⟨number, owner, isOf_cons part turn⟩

theorem IsAmong.mono {owners others : Nat → Prop} {site : Site} (among : site.IsAmong owners)
    (more : ∀ number, owners number → others number) : site.IsAmong others := by
  obtain ⟨number, owner, part⟩ := among
  exact ⟨number, more number owner, part⟩

theorem isAmong_value {owners : Nat → Prop} {number : Nat} (owner : owners number) :
    IsAmong owners [.value number] :=
  ⟨number, owner, by simp [isOf]⟩

end Site

/-! ## Logs -/

/-- The entry says that a part was built which had been built earlier. -/
def Entry.isRepeat (earlier : List Site) : Entry → Bool
  | .built site _ => earlier.contains site
  | _ => false

namespace Log

/-- A log without the entries about parts that had been built earlier. -/
def without (log : Log) (earlier : List Site) : Log :=
  log.filter fun entry => !entry.isRepeat earlier

theorem without_append (log later : Log) (earlier : List Site) :
    without (log ++ later) earlier = log.without earlier ++ later.without earlier :=
  Array.filter_append Array.size_append

theorem without_of_quiet {entries : Log} (silent : entries.builtSites = [])
    (earlier : List Site) : entries.without earlier = entries := by
  rw [without, Array.filter_eq_self]
  intro entry member
  cases entry with
  | built site label =>
      have built : site ∈ entries.builtSites :=
        List.mem_filterMap.mpr ⟨_, member.val, rfl⟩
      rw [silent] at built
      cases built
  | noted text => rfl
  | visited label position => rfl

theorem without_built_of_mem {earlier : List Site} {site : Site} (member : site ∈ earlier)
    (label : String) : Log.without #[.built site label] earlier = #[] := by
  simp [without, Entry.isRepeat, member]

theorem without_built_of_not_mem {earlier : List Site} {site : Site} (new : site ∉ earlier)
    (label : String) :
    Log.without #[.built site label] earlier = #[.built site label] := by
  simp [without, Entry.isRepeat, new]

end Log

/-! ## Stores -/

namespace Store

/-- From one store to another, parts of parser values with such numbers were built in the
order of the log. -/
structure Grows (owners : Nat → Prop) (before : Store) (log : Log) (after : Store) : Prop where
  /-- What has been built is what had been and what was logged. -/
  built : ∀ site, after.built site = (log.builtSites.contains site || before.built site)
  /-- Only parts that had not been built were built. -/
  unbuilt : ∀ site ∈ log.builtSites, before.built site = false
  /-- No part was built twice. -/
  once : log.builtSites.Nodup
  among : ∀ site ∈ log.builtSites, site.IsAmong owners

namespace Grows

variable {owners : Nat → Prop} {before between after : Store} {log later : Log}

theorem refl (store : Store) : Grows owners store #[] store where
  built _ := rfl
  unbuilt _ member := nomatch member
  once := .nil
  among _ member := nomatch member

theorem trans (near : Grows owners before log between) (far : Grows owners between later after) :
    Grows owners before (log ++ later) after where
  built site := by
    rw [far.built, near.built, Log.builtSites_append, List.contains_append, Bool.or_left_comm,
      Bool.or_assoc]
  unbuilt site member := by
    rw [Log.builtSites_append, List.mem_append] at member
    rcases member with member | member
    · exact near.unbuilt site member
    · have unbuilt := far.unbuilt site member
      rw [near.built, Bool.or_eq_false_iff] at unbuilt
      exact unbuilt.2
  once := by
    rw [Log.builtSites_append, List.nodup_append]
    refine ⟨near.once, far.once, ?_⟩
    rintro site member _ laterMember rfl
    have unbuilt := far.unbuilt site laterMember
    rw [near.built, List.contains_iff_mem.mpr member] at unbuilt
    cases unbuilt
  among site member := by
    rw [Log.builtSites_append, List.mem_append] at member
    exact member.elim (near.among site) (far.among site)

theorem quiet (grows : Grows owners before log after) {entries : Log}
    (silent : entries.builtSites = []) : Grows owners before (log ++ entries) after where
  built site := by
    rw [Log.builtSites_append, silent, List.append_nil]
    exact grows.built site
  unbuilt site member := by
    rw [Log.builtSites_append, silent, List.append_nil] at member
    exact grows.unbuilt site member
  once := by
    rw [Log.builtSites_append, silent, List.append_nil]
    exact grows.once
  among site member := by
    rw [Log.builtSites_append, silent, List.append_nil] at member
    exact grows.among site member

theorem mono (grows : Grows owners before log after) {others : Nat → Prop}
    (more : ∀ number, owners number → others number) : Grows others before log after where
  built := grows.built
  unbuilt := grows.unbuilt
  once := grows.once
  among site member := (grows.among site member).mono more

/-- Calls of binders are counted besides. -/
theorem call (grows : Grows owners before log after) : Grows owners before log after.call :=
  ⟨grows.built, grows.unbuilt, grows.once, grows.among⟩

/-- A part is built. -/
theorem build {store : Store} {site : Site} (among : site.IsAmong owners)
    (unbuilt : store.built site = false) (label : String) :
    Grows owners store #[.built site label] (store.build site) where
  built other := by
    have logged : Log.builtSites #[.built site label] = [site] := rfl
    rw [logged, List.contains_cons, List.contains_nil, Bool.or_false]
    rfl
  unbuilt other member := by
    cases List.mem_singleton.mp member
    exact unbuilt
  once := by simp [Log.builtSites]
  among other member := by
    cases List.mem_singleton.mp member
    exact among

end Grows

end Store

/-! ## Two runs -/

/-- The first run is in a store where less has been built, and its twin started with a
given store. -/
structure Stage.Recalls (owners : Nat → Prop) (earlier : List Site) (start store : Store)
    (log : Log) (twin : Store) (twinLog : Log) : Prop where
  calls : twin.calls = store.calls
  joins : ∀ site, twin.built site = (earlier.contains site || store.built site)
  logs : twinLog = log.without earlier
  grows : Store.Grows owners start twinLog twin

namespace Stage.Recalls

variable {owners : Nat → Prop} {earlier : List Site} {start store twin : Store}
variable {log twinLog : Log}

theorem quiet : Stage.Quiet (Stage.Recalls owners earlier start) := by
  intro store log twin twinLog entries silent stands
  refine ⟨stands.calls, stands.joins, ?_, stands.grows.quiet silent⟩
  rw [Log.without_append, Log.without_of_quiet silent, stands.logs]

theorem call (stands : Stage.Recalls owners earlier start store log twin twinLog) :
    Stage.Recalls owners earlier start store.call log twin.call twinLog where
  calls := congrArg (· + 1) stands.calls
  joins := stands.joins
  logs := stands.logs
  grows := stands.grows.call

/-- The part is built in the first run only. The entry that says so is missing from the
other log. -/
theorem built_before (stands : Stage.Recalls owners earlier start store log twin twinLog)
    {site : Site} (before : site ∈ earlier) (label : String) :
    Stage.Recalls owners earlier start (store.build site) (log ++ #[.built site label]) twin
      twinLog where
  calls := stands.calls
  joins other := by
    simp only [stands.joins, Store.build]
    cases same : other == site with
    | true =>
        rw [eq_of_beq same, List.contains_iff_mem.mpr before]
        rfl
    | false => rw [Bool.false_or]
  logs := by
    rw [Log.without_append, Log.without_built_of_mem before, Array.append_empty, stands.logs]
  grows := stands.grows

/-- The part is built in both runs. -/
theorem built_now (stands : Stage.Recalls owners earlier start store log twin twinLog)
    {site : Site} (among : site.IsAmong owners) (new : site ∉ earlier)
    (unbuilt : twin.built site = false) (label : String) :
    Stage.Recalls owners earlier start (store.build site) (log ++ #[.built site label])
      (twin.build site) (twinLog ++ #[.built site label]) where
  calls := stands.calls
  joins other := by
    simp only [stands.joins, Store.build]
    exact Bool.or_left_comm _ _ _
  logs := by
    rw [Log.without_append, Log.without_built_of_not_mem new, stands.logs]
  grows := stands.grows.trans (.build among unbuilt label)

end Stage.Recalls

/-- Wherever it is made in a parser value with such a number, an attempt recalls what was
built earlier. -/
def Attempt.Recalls {τ α : Type} (owners : Nat → Prop) (attempt : Attempt τ α Store) : Prop :=
  ∀ earlier (start : Store) site, site.IsAmong owners →
    Lockstep (Stage.Recalls owners earlier start) site site attempt attempt

namespace Attempt.Recalls

variable {τ α : Type} {owners : Nat → Prop} {attempt : Attempt τ α Store}

theorem behind (recalls : attempt.Recalls owners) (turn : Turn) :
    (attempt.behind turn).Recalls owners :=
  fun earlier start site among => recalls earlier start (turn :: site) (among.cons turn)

/-- Calls are numbered alike in both runs. -/
theorem onCall (recalls : attempt.Recalls owners) : attempt.onCall.Recalls owners := by
  intro earlier start site among store log twin twinLog cursor reply stands replies
  rw [Attempt.onCall, stands.calls]
  exact recalls earlier start _ (among.cons _) stands.call replies

theorem onFirst (recalls : attempt.Recalls owners) (label : String) :
    (attempt.onFirst label).Recalls owners := by
  intro earlier start site among store log twin twinLog cursor reply stands replies
  have inner := recalls earlier start (.inside :: site) (among.cons .inside)
  have joins := stands.joins site
  cases unbuilt : store.built site with
  | true =>
      rw [onFirst_of_built unbuilt] at replies
      rw [unbuilt, Bool.or_true] at joins
      rw [onFirst_of_built joins]
      exact inner stands replies
  | false =>
      rw [onFirst_of_unbuilt unbuilt] at replies
      obtain ⟨between, replied, made⟩ := Option.map_eq_some_iff.mp replies
      cases made
      rw [unbuilt, Bool.or_false] at joins
      by_cases before : site ∈ earlier
      · obtain ⟨answer, answers, outcome, ends⟩ :=
          inner (stands.built_before before label) replied
        refine ⟨answer, ?_, outcome, ?_⟩
        · rw [onFirst_of_built (joins.trans (List.contains_iff_mem.mpr before)), answers]
        · simp only [Stage.after] at ends ⊢
          rw [Reply.log_after, ← Array.append_assoc]
          exact ends
      · have twinUnbuilt : twin.built site = false := by
          rw [joins, Bool.eq_false_iff]
          exact fun repeated => before (List.contains_iff_mem.mp repeated)
        obtain ⟨answer, answers, outcome, ends⟩ :=
          inner (stands.built_now among before twinUnbuilt label) replied
        refine ⟨answer.after #[.built site label], ?_, outcome, ?_⟩
        · rw [onFirst_of_unbuilt twinUnbuilt, answers]
          rfl
        · simp only [Stage.after] at ends ⊢
          rw [Reply.log_after, Reply.log_after, ← Array.append_assoc, ← Array.append_assoc]
          exact ends

theorem byReference (recalls : attempt.Recalls owners) {number : Nat} (owner : owners number) :
    (attempt.byReference number).Recalls owners :=
  fun earlier start _ _ _ _ _ _ _ _ stands replies =>
    recalls earlier start _ (Site.isAmong_value owner) stands replies

end Attempt.Recalls

/-! ## Parsers -/

variable {τ ρ : Type} [Token τ] {Out : ρ → Type} {α : Type} {owners : Nat → Prop}

/-- A parser recalls what was built earlier if its rules do, and if it refers only to
values with such numbers. -/
theorem Parser.recalls_attemptShared (label : ρ → String) {refers : ρ → Option Nat}
    (leads : ∀ name number, refers name = some number → owners number)
    {enter : (name : ρ) → Attempt τ (Out name) Store}
    (recalls : ∀ name, (enter name).Recalls owners) (parser : Parser τ Out α) :
    (parser.attemptShared label refers enter).Recalls owners := by
  induction parser with
  | delayed name parser ih => exact ih.onFirst name
  | rule name =>
      rw [Parser.attemptShared]
      cases refer : refers name with
      | some number => exact (recalls name).byReference (leads name number refer)
      | none => exact (recalls name).onFirst (label name)
  | satisfy note expected accepts =>
      exact fun _ _ _ _ => .satisfy Stage.Recalls.quiet note expected accepts
  | tokens run => exact fun _ _ _ _ => .tokens Stage.Recalls.quiet run
  | eof => exact fun _ _ _ _ => .eof Stage.Recalls.quiet
  | pure value => exact fun _ _ _ _ => .pure Stage.Recalls.quiet value
  | fail expected actual => exact fun _ _ _ _ => .fail Stage.Recalls.quiet _
  | map note function parser ih =>
      intro earlier start site among
      exact (ih earlier start site among).map Stage.Recalls.quiet note function
  | flatMap note binder parser binderIH parserIH =>
      intro earlier start site among
      have first := parserIH.behind .left earlier start site among
      exact first.flatMap Stage.Recalls.quiet note fun output =>
        (binderIH output).onCall earlier start site among
  | sequence note combine first second firstIH secondIH =>
      intro earlier start site among
      have ahead := firstIH.behind .left earlier start site among
      exact ahead.sequence Stage.Recalls.quiet (secondIH.behind .right earlier start site among)
        note combine
  | twice parser ih =>
      intro earlier start site among
      have once := ih earlier start site among
      exact once.sequence Stage.Recalls.quiet once none Prod.mk
  | choice first second firstIH secondIH =>
      intro earlier start site among
      have ahead := firstIH.behind .left earlier start site among
      exact ahead.choice (secondIH.behind .right earlier start site among)
  | zeroOrMore collector parser ih =>
      intro earlier start site among
      exact .zeroOrMore Stage.Recalls.quiet (ih earlier start site among) collector
  | oneOrMore collector parser ih =>
      intro earlier start site among
      exact .oneOrMore Stage.Recalls.quiet (ih earlier start site among) collector
  | count bounds collector parser ih =>
      intro earlier start site among
      exact .count Stage.Recalls.quiet (ih earlier start site among) bounds collector
  | tap name parser ih =>
      intro earlier start site among
      exact .tap Stage.Recalls.quiet (ih earlier start site among) name

namespace Rules

theorem recalls_attemptShared (rules : Rules τ Out) {refers : ρ → Option Nat}
    (leads : ∀ name number, refers name = some number → owners number) (depth : Nat)
    (name : ρ) : (rules.attemptShared refers depth name).Recalls owners := by
  induction depth generalizing name with
  | zero =>
      intro earlier start site among store log twin twinLog cursor reply stands replies
      cases replies
  | succ depth inductionHypothesis =>
      exact Parser.recalls_attemptShared rules.label leads inductionHypothesis
        (rules.body name)

theorem recalls_runShared (rules : Rules τ Out) {refers : ρ → Option Nat}
    (leads : ∀ name number, refers name = some number → owners number) (depth : Nat)
    (parser : Parser τ Out α) : (rules.runShared refers depth parser).Recalls owners :=
  parser.recalls_attemptShared rules.label leads (rules.recalls_attemptShared leads depth)

end Rules

end Descent
