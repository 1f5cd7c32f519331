import Descent.Proofs.Outcome
import Descent.Proofs.Recall
import Descent.Proofs.Sharing

/-!
# Runs of parser values, one after the other

Parser values may be added, copied and run any number of times, in any order and on any
cursors. What is remembered of earlier runs never shows in an outcome. It shows in the
log, which then lacks what had been built, and nothing else; and no part of any value is
ever built twice. A copy has everything to build, whatever has been built of the
original.

Runs in turn are meant here: what it takes to run one parser value in several places at
the same time is left out.
-/

namespace Descent

variable {τ ρ : Type} {Out : ρ → Type} {α : Type}

/-- Where names refer to parser values, these are there and are what the rules say. -/
def Rules.Names (rules : Rules τ Out) (refers : ρ → Option Nat) (shelf : Shelf τ Out) : Prop :=
  ∀ name number, refers name = some number → shelf.values[number]? = some ⟨rules.body name⟩

theorem Rules.Names.lt_length {rules : Rules τ Out} {refers : ρ → Option Nat}
    {shelf : Shelf τ Out} (names : rules.Names refers shelf) (name : ρ) (number : Nat)
    (refer : refers name = some number) : number < shelf.values.length :=
  (List.getElem?_eq_some_iff.mp (names name number refer)).1

namespace Shelf

theorem copy_eq_put {shelf : Shelf τ Out} {number : Nat} {value : ParserValue τ Out}
    (held : shelf.values[number]? = some value) : shelf.copy number = some (shelf.put value) := by
  rw [copy, held]
  rfl

end Shelf

namespace Store.Grows

variable {count : Nat} {store : Store} {log : Log}

/-- Nothing has been built of a value that is not there. -/
theorem not_mem_of_isOf (grows : Grows (· < count) .empty log store) {number : Nat}
    (missing : count ≤ number) {site : Site} (part : site.isOf number = true) :
    site ∉ log.builtSites := by
  intro member
  obtain ⟨other, there, same⟩ := grows.among site member
  exact absurd (Site.isOf_unique part same) (Nat.ne_of_lt (Nat.lt_of_lt_of_le there missing))

theorem built_iff {owners : Nat → Prop} (grows : Grows owners .empty log store) (site : Site) :
    store.built site = log.builtSites.contains site := by
  rw [grows.built]
  exact Bool.or_false _

/-- One more value, of which nothing has been built. -/
theorem put (grows : Grows (· < count) .empty log store) :
    Grows (· < count + 1) .empty log (store.clear count) where
  built site := by
    cases part : site.isOf count with
    | false => simp only [clear, part, Bool.not_false, Bool.true_and, grows.built]
    | true =>
        have new := grows.not_mem_of_isOf (Nat.le_refl count) part
        simp [clear, part, new, empty]
  unbuilt := grows.unbuilt
  once := grows.once
  among site member := (grows.among site member).mono fun _ => Nat.lt_succ_of_lt

end Store.Grows

variable [Token τ]

/-- Parser values, and what they have logged in all, after some of them were added,
copied and run. What names refer to is said with each run, since values that came later
may be referred to by then. -/
inductive Rules.History (rules : Rules τ Out) : Shelf τ Out → Log → Prop where
  | start : History rules .empty #[]
  | put {shelf : Shelf τ Out} {log : Log} (earlier : History rules shelf log)
      (value : ParserValue τ Out) : History rules (shelf.put value) log
  | copy {shelf copied : Shelf τ Out} {log : Log} {number : Nat}
      (earlier : History rules shelf log) (copies : shelf.copy number = some copied) :
      History rules copied log
  | run {shelf : Shelf τ Out} {log : Log} {refers : ρ → Option Nat} {depth number : Nat}
      {α : Type} {parser : Parser τ Out α} {cursor : Cursor τ} {reply : Reply τ α Store}
      (earlier : History rules shelf log) (names : rules.Names refers shelf)
      (held : shelf.values[number]? = some ⟨parser⟩)
      (replies : rules.runShared refers depth parser [.value number] shelf.store cursor =
        some reply) :
      History rules ⟨shelf.values, reply.memory⟩ (log ++ reply.log)

/-! ## What has been built -/

/-- The parser values of which a run may build parts: the one that is run, and those that
names refer to. -/
def Rules.Reaches (refers : ρ → Option Nat) (number other : Nat) : Prop :=
  other = number ∨ ∃ name, refers name = some other

namespace Rules

variable {rules : Rules τ Out} {refers : ρ → Option Nat} {depth number : Nat}
variable {parser : Parser τ Out α} {store : Store} {log : Log} {cursor : Cursor τ}

omit [Token τ] in
theorem Names.lt_of_reaches {shelf : Shelf τ Out} (names : rules.Names refers shelf)
    (known : number < shelf.values.length) (other : Nat) (reaches : Reaches refers number other) :
    other < shelf.values.length := by
  obtain rfl | ⟨name, refer⟩ := reaches
  · exact known
  · exact names.lt_length name other refer

theorem recalls_reached (rules : Rules τ Out) (refers : ρ → Option Nat) (depth number : Nat)
    (parser : Parser τ Out α) (earlier : List Site) (start : Store) :
    Attempt.Lockstep (Stage.Recalls (Reaches refers number) earlier start) [.value number]
      [.value number] (rules.runShared refers depth parser) (rules.runShared refers depth parser) :=
  rules.recalls_runShared (fun name _ refer => .inr ⟨name, refer⟩) depth parser earlier start
    [.value number] (Site.isAmong_value (.inl rfl))

/-- A run builds what it logs. -/
theorem grows_of_runShared {reply : Reply τ α Store}
    (replies : rules.runShared refers depth parser [.value number] store cursor = some reply) :
    Store.Grows (Reaches refers number) store reply.log reply.memory := by
  have begins : Stage.Recalls (Reaches refers number) [] store store #[] store #[] :=
    ⟨rfl, fun _ => rfl, rfl, .refl store⟩
  obtain ⟨answer, answers, _, ends⟩ :=
    rules.recalls_reached refers depth number parser [] store begins replies
  rw [replies] at answers
  cases answers
  simp only [Stage.after, Array.empty_append] at ends
  exact ends.grows

/-- A run logs what it would log if nothing had been built, without what had been. -/
theorem runShared_eq_renewed {owners : Nat → Prop} (grows : Store.Grows owners .empty log store) :
    (rules.runShared refers depth parser [.value number] store cursor).map
        (fun reply => (reply.outcome, reply.log)) =
      (rules.runShared refers depth parser [.value number] store.renewed cursor).map
        fun reply => (reply.outcome, reply.log.without log.builtSites) := by
  have same : (rules.runShared refers depth parser [.value number] store cursor).map
        Reply.outcome =
      (rules.runShared refers depth parser [.value number] store.renewed cursor).map
        Reply.outcome := by
    rw [outcome_runShared, outcome_runShared]
  have begins : Stage.Recalls (Reaches refers number) log.builtSites store store.renewed #[]
      store #[] := by
    refine ⟨rfl, fun site => ?_, rfl, .refl store⟩
    rw [grows.built_iff]
    exact (Bool.or_false _).symm
  cases fresh : rules.runShared refers depth parser [.value number] store.renewed cursor with
  | none =>
      rw [fresh, Option.map_none, Option.map_eq_none_iff] at same
      rw [same]
      rfl
  | some reply =>
      obtain ⟨answer, answers, outcome, ends⟩ :=
        rules.recalls_reached refers depth number parser log.builtSites store begins fresh
      simp only [Stage.after, Array.empty_append] at ends
      rw [answers, Option.map_some, Option.map_some, outcome, ends.logs]

theorem History.grows {shelf : Shelf τ Out} (history : rules.History shelf log) :
    Store.Grows (· < shelf.values.length) .empty log shelf.store := by
  induction history with
  | start => exact .refl .empty
  | put earlier value inductionHypothesis =>
      have grows := inductionHypothesis.put
      simpa [Shelf.put] using grows
  | copy earlier copies inductionHypothesis =>
      obtain ⟨value, held, made⟩ := Option.map_eq_some_iff.mp copies
      cases made
      have grows := inductionHypothesis.put
      simpa [Shelf.put] using grows
  | run earlier names held replies inductionHypothesis =>
      have known := (List.getElem?_eq_some_iff.mp held).1
      exact inductionHypothesis.trans
        ((grows_of_runShared replies).mono (names.lt_of_reaches known))

/-- A delayed parser builds its part on the first run, and then has it. -/
theorem runShared_delayed (label : String) (part : Parser τ Out α) (site : Site) :
    rules.runShared refers depth (.delayed label part) site store cursor =
      if store.built site then
        rules.runShared refers depth part (.inside :: site) store cursor
      else
        (rules.runShared refers depth part (.inside :: site) (store.build site) cursor).map
          fun reply => reply.after #[.built site label] := by
  cases built : store.built site with
  | true => exact Attempt.onFirst_of_built built
  | false => exact Attempt.onFirst_of_unbuilt built

/-! ## One parser value by itself -/

/-- What a new parser value remembers, and has logged in all, after any number of runs
that came to an end. -/
inductive Runs (rules : Rules τ Out) (parser : Parser τ Out α) : Memory → Log → Prop where
  | new : Runs rules parser .blank #[]
  | step {memory : Memory} {log : Log} {depth : Nat} {cursor : Cursor τ} {reply : Reply τ α}
      (earlier : Runs rules parser memory log)
      (replies : rules.run depth parser [] memory cursor = some reply) :
      Runs rules parser reply.memory (log ++ reply.log)

/-- The store tells the same of the first parser value as a memory of its own. -/
structure Known (rules : Rules τ Out) (parser : Parser τ Out α) (memory : Memory)
    (store : Store) : Prop where
  counted : ∀ part, store.built part = true → store.Counts part
  holds : ∃ level, ∀ deeper, level ≤ deeper →
    (parser.view (rules.viewAt deeper)).Holds store [.value 0] memory

namespace Known

variable {memory : Memory}

omit [Token τ] in
/-- Where nothing has been built there is nothing to remember. -/
theorem blank (unbuilt : ∀ part, store.built part = false) :
    rules.Known parser .blank store where
  counted part built := by
    rw [unbuilt] at built
    cases built
  holds := ⟨0, fun deeper _ => Memory.View.blank _ fun part _ => unbuilt part⟩

theorem step (known : rules.Known parser memory store) {reply : Reply τ α}
    (replies : rules.run depth parser [] memory cursor = some reply) :
    ∃ answer, rules.runShared (fun _ => none) depth parser [.value 0] store cursor =
        some answer ∧
      answer.outcome = reply.outcome ∧
      answer.log.map Entry.text = reply.log.map Entry.text ∧
      rules.Known parser reply.memory answer.memory := by
  obtain ⟨level, holds⟩ := known.holds
  have counts : store.Counts [.value 0] := by
    intro call member
    cases List.mem_singleton.mp member
  have ends {deeper : Nat} (deep : max depth level ≤ deeper) :=
    rules.mirrors_run (Nat.le_trans (Nat.le_max_left _ _) deep) parser store [] [.value 0] counts
      (.begin (holds deeper (Nat.le_trans (Nat.le_max_right _ _) deep)) known.counted) replies
  obtain ⟨answer, answers, outcome, stands⟩ := ends (Nat.le_refl _)
  simp only [Stage.after, Array.empty_append] at stands
  refine ⟨answer, answers, outcome, stands.texts, stands.counted, max depth level,
    fun deeper deep => ?_⟩
  obtain ⟨other, otherAnswers, _, otherStands⟩ := ends deep
  cases Option.some.inj (answers.symm.trans otherAnswers)
  exact otherStands.holds

/-- The next runs end alike and show the same log. -/
theorem run_eq (known : rules.Known parser memory store) :
    (rules.run depth parser [] memory cursor).map
        (fun reply => (reply.outcome, reply.log.map Entry.text)) =
      (rules.runShared (fun _ => none) depth parser [.value 0] store cursor).map
        fun reply => (reply.outcome, reply.log.map Entry.text) := by
  have same : (rules.run depth parser [] memory cursor).map Reply.outcome =
      (rules.runShared (fun _ => none) depth parser [.value 0] store cursor).map
        Reply.outcome := by
    rw [outcome_run, outcome_runShared]
  cases replies : rules.run depth parser [] memory cursor with
  | none =>
      rw [replies, Option.map_none, eq_comm, Option.map_eq_none_iff] at same
      rw [same]
      rfl
  | some reply =>
      obtain ⟨answer, answers, outcome, texts, _⟩ := known.step replies
      rw [answers, Option.map_some, Option.map_some, outcome, texts]

end Known

/-- After the same runs a store knows what a memory does, and has logged the same. -/
theorem Runs.known {memory : Memory} (runs : rules.Runs parser memory log) :
    ∃ store storeLog, rules.History ⟨[⟨parser⟩], store⟩ storeLog ∧
      storeLog.map Entry.text = log.map Entry.text ∧ rules.Known parser memory store := by
  induction runs with
  | new =>
      refine ⟨Store.empty.clear 0, #[], History.start.put ⟨parser⟩, rfl, .blank fun part => ?_⟩
      simp [Store.clear, Store.empty]
  | step earlier replies inductionHypothesis =>
      obtain ⟨store, storeLog, history, texts, known⟩ := inductionHypothesis
      obtain ⟨answer, answers, _, newTexts, next⟩ := known.step replies
      have names : rules.Names (fun _ => none) ⟨[⟨parser⟩], store⟩ := by
        intro name number refer
        cases refer
      refine ⟨_, _, history.run names rfl answers, ?_, next⟩
      rw [Array.map_append, Array.map_append, texts, newTexts]

/-- Whatever was added, copied and run before, a run of a parser value ends as that of
a new one, and logs the same except for what had been built; no part is ever built
twice, and none of a value that the run does not lead to. A delayed parser builds its part
exactly if it has not been built. A copy can be taken at any time: nothing of it has been
built, while all else stays as it was, and if it is a delayed parser it builds a part of
its own.

A parser value with a memory to itself does what it does in a store after the same runs,
and what a new one does is what it does in a store where nothing has been built. -/
theorem run_of_history {rules : Rules τ Out} {shelf : Shelf τ Out} {log : Log}
    (history : rules.History shelf log) {number : Nat} {parser : Parser τ Out α}
    (held : shelf.values[number]? = some ⟨parser⟩) {refers : ρ → Option Nat}
    (names : rules.Names refers shelf) (depth : Nat) (cursor : Cursor τ) :
    (rules.runShared refers depth parser [.value number] shelf.store cursor).map
          Reply.outcome =
        (rules.run depth parser [] .blank cursor).map Reply.outcome ∧
      (rules.runShared refers depth parser [.value number] shelf.store cursor).map
          (fun reply => (reply.outcome, reply.log)) =
        (rules.runShared refers depth parser [.value number] shelf.store.renewed cursor).map
          (fun reply => (reply.outcome, reply.log.without log.builtSites)) ∧
      (∀ reply,
        rules.runShared refers depth parser [.value number] shelf.store cursor = some reply →
        (log ++ reply.log).builtSites.Nodup ∧
          ∀ site ∈ reply.log.builtSites, site.IsAmong (Reaches refers number)) ∧
      (∀ label part, parser = .delayed label part →
        rules.runShared refers depth parser [.value number] shelf.store cursor =
          if [.value number] ∈ log.builtSites then
            rules.runShared refers depth part [.inside, .value number] shelf.store cursor
          else
            (rules.runShared refers depth part [.inside, .value number]
              (shelf.store.build [.value number]) cursor).map
                fun reply => reply.after #[.built [.value number] label]) ∧
      (∃ copied, shelf.copy number = some copied ∧ rules.History copied log ∧
        copied.values = shelf.values ++ [⟨parser⟩] ∧ rules.Names refers copied ∧
        (∀ site, site.isOf shelf.values.length = true →
          site ∉ log.builtSites ∧ copied.store.built site = false) ∧
        (∀ site, site.isOf shelf.values.length = false →
          copied.store.built site = shelf.store.built site) ∧
        ∀ label part, parser = .delayed label part →
          rules.runShared refers depth parser [.value shelf.values.length] copied.store
              cursor =
            (rules.runShared refers depth part [.inside, .value shelf.values.length]
              (copied.store.build [.value shelf.values.length]) cursor).map
                fun reply => reply.after #[.built [.value shelf.values.length] label]) ∧
      ∀ memory ownLog, rules.Runs parser memory ownLog →
        ∃ store storeLog, rules.History ⟨[⟨parser⟩], store⟩ storeLog ∧
          storeLog.map Entry.text = ownLog.map Entry.text ∧
          (rules.run depth parser [] memory cursor).map
              (fun reply => (reply.outcome, reply.log.map Entry.text)) =
            (rules.runShared (fun _ => none) depth parser [.value 0] store cursor).map
              (fun reply => (reply.outcome, reply.log.map Entry.text)) ∧
          (rules.run depth parser [] .blank cursor).map
              (fun reply => (reply.outcome, reply.log.map Entry.text)) =
            (rules.runShared (fun _ => none) depth parser [.value 0] store.renewed cursor).map
              fun reply => (reply.outcome, reply.log.map Entry.text) := by
  have grows := history.grows
  refine ⟨?_, runShared_eq_renewed grows, ?_, ?_, ?_, ?_⟩
  · rw [outcome_run, outcome_runShared]
  · intro reply replies
    exact ⟨(history.run names held replies).grows.once, (grows_of_runShared replies).among⟩
  · rintro label part rfl
    rw [runShared_delayed, grows.built_iff]
    simp only [List.contains_iff_mem]
  · have next := history.put ⟨parser⟩
    refine ⟨_, Shelf.copy_eq_put held, next, rfl, ?_, ?_, ?_, ?_⟩
    · intro name other refer
      exact List.getElem?_append_left (names.lt_length name other refer) ▸
        names name other refer
    · intro site part
      refine ⟨grows.not_mem_of_isOf (Nat.le_refl _) part, ?_⟩
      simp [Shelf.put, Store.clear, part]
    · intro site other
      simp [Shelf.put, Store.clear, other]
    · rintro label part rfl
      have unbuilt : (shelf.put ⟨.delayed label part⟩).store.built
          [.value shelf.values.length] = false := by
        simp [Shelf.put, Store.clear, Site.isOf]
      rw [runShared_delayed, unbuilt, if_neg Bool.false_ne_true]
  · intro memory ownLog runs
    obtain ⟨store, storeLog, storeHistory, texts, known⟩ := runs.known
    have renewed : rules.Known parser .blank store.renewed := .blank fun _ => rfl
    exact ⟨store, storeLog, storeHistory, texts, known.run_eq, renewed.run_eq⟩

/-- A dot that is built when it is first run, to be used by reference. -/
def sharedDot : Rules Char (fun _ : Unit => Char) where
  label _ := "shared"
  body _ := .delayed "dot" (.token '.')

/-- The shared dot in two places, and once more as what a binder returns. -/
def dotsByReference : Parser Char (fun _ : Unit => Char) Char :=
  .flatMap none (fun _ => .rule ()) (.sequence none (fun _ dot => dot) (.rule ()) (.rule ()))

/-- The dot is built once for all references to it. A copy of it that is taken then
builds a dot of its own, which the next run of the original does not. -/
theorem run_of_history_sharedDot :
    ∃ shelf log copied, sharedDot.History shelf log ∧ log.builtSites = [[.value 0]] ∧
      shelf.values[0]? = some ⟨sharedDot.body ()⟩ ∧
      sharedDot.Names (fun _ => some 0) shelf ∧ shelf.copy 0 = some copied ∧
      (sharedDot.runShared (fun _ => some 0) 1 (sharedDot.body ()) [.value 0] shelf.store
        (.start ⟨1, #['.']⟩)).map Reply.log = some #[] ∧
      (sharedDot.runShared (fun _ => some 0) 1 (sharedDot.body ()) [.value 2] copied.store
        (.start ⟨1, #['.']⟩)).map Reply.log = some #[.built [.value 2] "dot"] := by
  have added : sharedDot.History
      ((Shelf.empty.put ⟨sharedDot.body ()⟩).put ⟨dotsByReference⟩) #[] :=
    (History.start.put _).put _
  have computed :
      (sharedDot.runShared (fun _ => some 0) 1 dotsByReference [.value 1]
        ((Shelf.empty.put ⟨sharedDot.body ()⟩).put ⟨dotsByReference⟩).store
        (.start ⟨0, #['.', '.', '.']⟩)).map Reply.log = some #[.built [.value 0] "dot"] := by
    decide +kernel
  obtain ⟨reply, replies, logged⟩ := Option.map_eq_some_iff.mp computed
  have names (store : Store) : sharedDot.Names (fun _ => some 0)
      ⟨[⟨sharedDot.body ()⟩, ⟨dotsByReference⟩], store⟩ := by
    intro name number refer
    cases refer
    rfl
  have history := added.run (names _) rfl replies
  have held (store : Store) : (⟨[⟨sharedDot.body ()⟩, ⟨dotsByReference⟩], store⟩ :
      Shelf Char fun _ : Unit => Char).values[0]? = some ⟨sharedDot.body ()⟩ := rfl
  have sites : (#[] ++ reply.log : Log).builtSites = [[.value 0]] := by
    rw [logged]
    rfl
  obtain ⟨_, _, _, original, ⟨copied, copies, _, _, _, _, _, own⟩, _⟩ :=
    run_of_history history (held reply.memory) (names reply.memory) 1 (.start ⟨1, #['.']⟩)
  have again := original "dot" (.token '.') rfl
  rw [sites, if_pos (List.mem_singleton_self _)] at again
  have anew := own "dot" (.token '.') rfl
  refine ⟨_, _, copied, history, sites, held reply.memory, names reply.memory, copies, ?_, ?_⟩
  · exact (congrArg (Option.map Reply.log) again).trans rfl
  · exact (congrArg (Option.map Reply.log) anew).trans rfl

end Rules

end Descent
