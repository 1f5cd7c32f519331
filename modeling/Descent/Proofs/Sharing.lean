import Descent.Proofs.Lockstep
import Descent.Run.Store

/-!
# A parser value that shares nothing

Where there are no references, the store has to each part of a parser value what a memory
has that is made for this value alone. So a run with such a memory and a run in the store
end alike and show the same log. Only the calls of binders are numbered differently, which
logs do not show.
-/

namespace Descent

/-! ## Stores and memories -/

namespace Site

/-- Nothing is behind two different turns. -/
theorem apart {turn other : Turn} (different : turn ≠ other) {site part : Site}
    (behind : (turn :: site) <:+ part) : ¬ (other :: site) <:+ part := by
  intro otherBehind
  have same : (turn :: site) <:+ other :: site :=
    List.suffix_of_suffix_length_le behind otherBehind (Nat.le_refl _)
  cases same.eq_of_length rfl
  exact different rfl

theorem not_behind (turn : Turn) (site : Site) : ¬ (turn :: site) <:+ site := by
  intro behind
  exact Nat.not_succ_le_self _ behind.length_le

/-- What is behind a turn is a part of the same. -/
theorem of_behind {turn : Turn} {site part : Site} (behind : (turn :: site) <:+ part) :
    site <:+ part :=
  (List.suffix_cons turn site).trans behind

end Site

namespace Store

/-- Nothing has been built of the part. -/
def Bare (store : Store) (site : Site) : Prop :=
  ∀ part, site <:+ part → store.built part = false

/-- The calls of binders on the way to the part have been counted. -/
def Counts (store : Store) (site : Site) : Prop :=
  ∀ call, .bound call ∈ site → call < store.calls

end Store

namespace Memory

/-- When a memory is what a store knows of a part. That hangs on nothing else in the
store. -/
structure View where
  Holds : Store → Site → Memory → Prop
  blank : ∀ {store site}, store.Bare site → Holds store site .blank
  congr : ∀ {store other site memory},
    (∀ part, site <:+ part → other.built part = store.built part) →
      Holds store site memory → Holds other site memory

namespace View

/-- A parser without parts remembers nothing that a store would know. -/
def leaf : View where
  Holds _ _ _ := True
  blank _ := trivial
  congr _ _ := trivial

/-- Of a parser with two parts, each part is known by itself. -/
def parts (left right : View) : View where
  Holds store site memory :=
    left.Holds store (.left :: site) memory.left ∧ right.Holds store (.right :: site) memory.right
  blank bare :=
    ⟨left.blank fun part behind => bare part (Site.of_behind behind),
      right.blank fun part behind => bare part (Site.of_behind behind)⟩
  congr agree holds :=
    ⟨left.congr (fun part behind => agree part (Site.of_behind behind)) holds.1,
      right.congr (fun part behind => agree part (Site.of_behind behind)) holds.2⟩

/-- Of a part that is built when it is first run, nothing has been built or the part and
what is known of it. -/
def opening (inside : View) : View where
  Holds store site
    | .opened memory => store.built site = true ∧ inside.Holds store (.inside :: site) memory
    | _ => store.Bare site
  blank bare := bare
  congr {store other site memory} agree holds := by
    cases memory with
    | opened memory =>
        refine ⟨(agree site (List.suffix_refl site)).trans holds.1, ?_⟩
        exact inside.congr (fun part behind => agree part (Site.of_behind behind)) holds.2
    | blank | split _ _ | called _ =>
        exact fun part behind => (agree part behind).trans (holds part behind)

end View

end Memory

/-! ## Two runs -/

/-- The first run is of a parser with a memory of its own. Its twin is in a store, which
tells the same of the parser, and knows what it did when the runs started of everything
else. -/
structure Stage.Mirrors (view : Memory.View) (start : Store) (twinSite : Site) (memory : Memory)
    (log : Log) (store : Store) (twinLog : Log) : Prop where
  holds : view.Holds store twinSite memory
  elsewhere : ∀ part, ¬ twinSite <:+ part → store.built part = start.built part
  calls : start.calls ≤ store.calls
  counted : ∀ part, store.built part = true → store.Counts part
  texts : twinLog.map Entry.text = log.map Entry.text

namespace Stage.Mirrors

variable {view : Memory.View} {start store : Store} {twinSite : Site} {memory : Memory}
variable {log twinLog : Log}

theorem quiet : Stage.Quiet (Stage.Mirrors view start twinSite) := by
  intro memory log store twinLog entries silent stands
  refine ⟨stands.holds, stands.elsewhere, stands.calls, stands.counted, ?_⟩
  rw [Array.map_append, Array.map_append, stands.texts]

/-- The runs of a part begin with nothing logged. -/
theorem begin (holds : view.Holds store twinSite memory)
    (counted : ∀ part, store.built part = true → store.Counts part) :
    Stage.Mirrors view store twinSite memory #[] store #[] :=
  ⟨holds, fun _ _ => rfl, Nat.le_refl _, counted, rfl⟩

/-- Both runs log that a part was built. -/
theorem logged (stands : Stage.Mirrors view start twinSite memory log store twinLog)
    (site : Site) (label : String) :
    Stage.Mirrors view start twinSite memory (log ++ #[.built site label]) store
      (twinLog ++ #[.built twinSite label]) where
  holds := stands.holds
  elsewhere := stands.elsewhere
  calls := stands.calls
  counted := stands.counted
  texts := by simp [stands.texts, Entry.text]

/-- On the way to a part that is not what a binder returns there are no further calls. -/
theorem counts_part (stands : Stage.Mirrors view start twinSite memory log store twinLog)
    (counts : start.Counts twinSite) {turn : Turn} (kept : ∀ call, turn ≠ .bound call) :
    store.Counts (turn :: twinSite) := by
  intro call member
  rcases List.mem_cons.mp member with same | member
  · exact absurd same.symm (kept call)
  · exact Nat.lt_of_lt_of_le (counts call member) stands.calls

/-- On the way to what a binder returns there is the call that is counted next. -/
theorem counts_call (stands : Stage.Mirrors view start twinSite memory log store twinLog)
    (counts : start.Counts twinSite) : store.call.Counts (.bound store.calls :: twinSite) := by
  intro call member
  rcases List.mem_cons.mp member with same | member
  · cases same
    exact Nat.lt_succ_self _
  · exact Nat.lt_succ_of_lt (Nat.lt_of_lt_of_le (counts call member) stands.calls)

/-- Of the next call of a binder nothing has been built. -/
theorem bare_call (stands : Stage.Mirrors view start twinSite memory log store twinLog) :
    store.call.Bare (.bound store.calls :: twinSite) := by
  intro part behind
  cases built : store.built part with
  | false => exact built
  | true =>
      have member : Turn.bound store.calls ∈ part := behind.subset List.mem_cons_self
      exact absurd (stands.counted part built _ member) (Nat.lt_irrefl _)

theorem counted_call (stands : Stage.Mirrors view start twinSite memory log store twinLog)
    (part : Site) (built : store.call.built part = true) : store.call.Counts part :=
  fun call member => Nat.lt_succ_of_lt (stands.counted part built call member)

theorem counted_build (stands : Stage.Mirrors view start twinSite memory log store twinLog)
    (counts : start.Counts twinSite) (part : Site)
    (built : (store.build twinSite).built part = true) :
    (store.build twinSite).Counts part := by
  simp only [Store.build, Bool.or_eq_true, beq_iff_eq] at built
  rcases built with rfl | built
  · exact fun call member => Nat.lt_of_lt_of_le (counts call member) stands.calls
  · exact stands.counted part built

end Stage.Mirrors

/-- Wherever both are made, an attempt in a store is made as one with a memory of its
own. -/
def Attempt.Mirrors {τ α : Type} (view : Memory.View) (attempt : Attempt τ α)
    (shared : Attempt τ α Store) : Prop :=
  ∀ (start : Store) site twinSite, start.Counts twinSite →
    Lockstep (Stage.Mirrors view start twinSite) site twinSite attempt shared

namespace Attempt.Mirrors

variable {τ α : Type} {view inner left right : Memory.View} {attempt : Attempt τ α}
variable {shared : Attempt τ α Store}

/-- The runs of a part. They begin in a store that may differ from that of the whole within
the whole, and they change nothing outside the part. Whatever the whole remembers then, if
the store tells the same of it, the runs of the whole go on. -/
theorem inPart (mirrors : attempt.Mirrors inner shared) {start store between : Store}
    {site twinSite : Site} {turn twinTurn : Turn} {memory innerMemory : Memory}
    {log twinLog : Log} {cursor : Cursor τ} {reply : Reply τ α}
    (stands : Stage.Mirrors view start twinSite memory log store twinLog)
    (begun : ∀ part, ¬ twinSite <:+ part → between.built part = store.built part)
    (calls : store.calls ≤ between.calls) (counts : between.Counts (twinTurn :: twinSite))
    (counted : ∀ part, between.built part = true → between.Counts part)
    (holds : inner.Holds between (twinTurn :: twinSite) innerMemory)
    (replied : attempt (turn :: site) innerMemory cursor = some reply) :
    ∃ answer, shared (twinTurn :: twinSite) between cursor = some answer ∧
      answer.outcome = reply.outcome ∧
      inner.Holds answer.memory (twinTurn :: twinSite) reply.memory ∧
      (∀ part, ¬ (twinTurn :: twinSite) <:+ part →
        answer.memory.built part = between.built part) ∧
      ∀ remembered, view.Holds answer.memory twinSite remembered →
        Stage.Mirrors view start twinSite remembered (log ++ reply.log) answer.memory
          (twinLog ++ answer.log) := by
  obtain ⟨answer, answers, outcome, ends⟩ :=
    mirrors between _ _ counts (.begin holds counted) replied
  simp only [Stage.after, Array.empty_append] at ends
  refine ⟨answer, answers, outcome, ends.holds, ends.elsewhere, fun remembered known => ?_⟩
  refine ⟨known, fun part outside => ?_, ?_, ends.counted, ?_⟩
  · have outsidePart : ¬ (twinTurn :: twinSite) <:+ part := fun behind =>
      outside (Site.of_behind behind)
    rw [ends.elsewhere part outsidePart, begun part outside, stands.elsewhere part outside]
  · exact Nat.le_trans stands.calls (Nat.le_trans calls ends.calls)
  · rw [Array.map_append, Array.map_append, stands.texts, ends.texts]

theorem onLeft (mirrors : attempt.Mirrors left shared) (right : Memory.View) :
    attempt.onLeft.Mirrors (.parts left right) (shared.behind .left) := by
  intro start site twinSite counts memory log store twinLog cursor reply stands replies
  obtain ⟨between, replied, made⟩ := Option.bind_eq_some_iff.mp replies
  obtain ⟨answer, answers, outcome, holds, elsewhere, goesOn⟩ :=
    mirrors.inPart stands (fun _ _ => rfl) (Nat.le_refl _)
      (stands.counts_part counts (by simp)) stands.counted stands.holds.1 replied
  cases made
  refine ⟨answer, answers, outcome, goesOn _ ⟨holds, ?_⟩⟩
  refine right.congr (fun part behind => ?_) stands.holds.2
  exact elsewhere part (Site.apart (by simp) behind)

theorem onRight (mirrors : attempt.Mirrors right shared) (left : Memory.View) :
    attempt.onRight.Mirrors (.parts left right) (shared.behind .right) := by
  intro start site twinSite counts memory log store twinLog cursor reply stands replies
  obtain ⟨between, replied, made⟩ := Option.bind_eq_some_iff.mp replies
  obtain ⟨answer, answers, outcome, holds, elsewhere, goesOn⟩ :=
    mirrors.inPart stands (fun _ _ => rfl) (Nat.le_refl _)
      (stands.counts_part counts (by simp)) stands.counted stands.holds.2 replied
  cases made
  refine ⟨answer, answers, outcome, goesOn _ ⟨?_, holds⟩⟩
  refine left.congr (fun part behind => ?_) stands.holds.1
  exact elsewhere part (Site.apart (by simp) behind)

/-- What a binder returns is new in the store too: no call has its number. -/
theorem onBound (mirrors : attempt.Mirrors view shared) (left : Memory.View) :
    attempt.onBound.Mirrors (.parts left .leaf) shared.onCall := by
  intro start site twinSite counts memory log store twinLog cursor reply stands replies
  obtain ⟨between, replied, made⟩ := Option.bind_eq_some_iff.mp replies
  have begun part (_ : ¬ twinSite <:+ part) : store.call.built part = store.built part := rfl
  obtain ⟨answer, answers, outcome, _, elsewhere, goesOn⟩ :=
    mirrors.inPart stands begun (Nat.le_succ _) (stands.counts_call counts)
      stands.counted_call (view.blank stands.bare_call) replied
  cases made
  refine ⟨answer, answers, outcome, goesOn _ ⟨?_, trivial⟩⟩
  refine left.congr (fun part behind => ?_) stands.holds.1
  exact elsewhere part (Site.apart (by simp) behind)

/-- The part is built, and the runs go on inside. -/
theorem inside (mirrors : attempt.Mirrors view shared) {start store between : Store}
    {site twinSite : Site} {memory innerMemory : Memory} {log twinLog : Log}
    {cursor : Cursor τ} {reply : Reply τ α} (counts : start.Counts twinSite)
    (stands : Stage.Mirrors (.opening view) start twinSite memory log store twinLog)
    (begun : ∀ part, ¬ twinSite <:+ part → between.built part = store.built part)
    (calls : between.calls = store.calls) (built : between.built twinSite = true)
    (counted : ∀ part, between.built part = true → between.Counts part)
    (holds : view.Holds between (.inside :: twinSite) innerMemory)
    (replied : attempt (.inside :: site) innerMemory cursor = some reply) :
    ∃ answer, shared (.inside :: twinSite) between cursor = some answer ∧
      answer.outcome = reply.outcome ∧
      Stage.Mirrors (.opening view) start twinSite (.opened reply.memory) (log ++ reply.log)
        answer.memory (twinLog ++ answer.log) := by
  have within : between.Counts (.inside :: twinSite) := by
    intro call member
    rw [calls]
    exact stands.counts_part counts (by simp) call member
  obtain ⟨answer, answers, outcome, known, elsewhere, goesOn⟩ :=
    mirrors.inPart stands begun (Nat.le_of_eq calls.symm) within counted holds replied
  refine ⟨answer, answers, outcome, goesOn _ ⟨?_, known⟩⟩
  rw [elsewhere twinSite (Site.not_behind _ _), built]

theorem onFirst (mirrors : attempt.Mirrors view shared) (label : String) :
    (attempt.onDemand label).Mirrors (.opening view) (shared.onFirst label) := by
  intro start site twinSite counts memory log store twinLog cursor reply stands replies
  cases memory with
  | opened inside =>
      obtain ⟨between, replied, made⟩ := Option.bind_eq_some_iff.mp replies
      obtain ⟨built, holds⟩ := stands.holds
      obtain ⟨answer, answers, outcome, ends⟩ :=
        mirrors.inside counts stands (fun _ _ => rfl) rfl built stands.counted holds replied
      cases made
      refine ⟨answer, ?_, outcome, ends⟩
      rw [onFirst_of_built built, answers]
  | blank | split _ _ | called _ =>
      obtain ⟨between, replied, made⟩ := Option.bind_eq_some_iff.mp replies
      have bare : store.Bare twinSite := stands.holds
      have begun part (outside : ¬ twinSite <:+ part) :
          (store.build twinSite).built part = store.built part := by
        apply store.built_build_of_ne
        rintro rfl
        exact outside (List.suffix_refl part)
      have inside : (store.build twinSite).Bare (.inside :: twinSite) := by
        intro part behind
        rw [store.built_build_of_ne]
        · exact bare part (Site.of_behind behind)
        · rintro rfl
          exact Site.not_behind _ _ behind
      obtain ⟨answer, answers, outcome, ends⟩ :=
        mirrors.inside counts (stands.logged site label) begun rfl
          (store.built_build_self twinSite) (stands.counted_build counts) (view.blank inside)
          replied
      cases made
      refine ⟨answer.after #[.built twinSite label], ?_, outcome, ?_⟩
      · rw [onFirst_of_unbuilt (bare twinSite (List.suffix_refl _)), answers]
        rfl
      · simp only [Stage.after, Reply.log_after, Reply.memory_after, Reply.log_mapMemory,
          Reply.memory_mapMemory]
        rw [← Array.append_assoc, ← Array.append_assoc]
        exact ends

end Attempt.Mirrors

/-! ## Parsers -/

variable {τ ρ : Type} [Token τ] {Out : ρ → Type} {α : Type}

/-- What a store knows of a parser, given what it knows of rules. -/
def Parser.view (views : ρ → Memory.View) : {α : Type} → Parser τ Out α → Memory.View
  | _, .satisfy _ _ _ | _, .tokens _ | _, .eof | _, .pure _ | _, .fail _ _ => .leaf
  | _, .map _ _ parser | _, .twice parser | _, .tap _ parser => view views parser
  | _, .flatMap _ _ parser => .parts (view views parser) .leaf
  | _, .sequence _ _ first second => .parts (view views first) (view views second)
  | _, .choice first second => .parts (view views first) (view views second)
  | _, .zeroOrMore _ parser | _, .oneOrMore _ parser | _, .count _ _ parser =>
      view views parser
  | _, .delayed _ parser => .opening (view views parser)
  | _, .rule name => .opening (views name)

theorem Parser.mirrors_attempt (label : ρ → String) {views : ρ → Memory.View}
    {enter : (name : ρ) → Attempt τ (Out name)}
    {enterShared : (name : ρ) → Attempt τ (Out name) Store}
    (mirrors : ∀ name, (enter name).Mirrors (views name) (enterShared name))
    (parser : Parser τ Out α) :
    (parser.attempt label enter).Mirrors (parser.view views)
      (parser.attemptShared label (fun _ => none) enterShared) := by
  induction parser with
  | satisfy note expected accepts =>
      exact fun _ _ _ _ => .satisfy Stage.Mirrors.quiet note expected accepts
  | tokens run => exact fun _ _ _ _ => .tokens Stage.Mirrors.quiet run
  | eof => exact fun _ _ _ _ => .eof Stage.Mirrors.quiet
  | pure value => exact fun _ _ _ _ => .pure Stage.Mirrors.quiet value
  | fail expected actual => exact fun _ _ _ _ => .fail Stage.Mirrors.quiet _
  | map note function parser ih =>
      exact fun start site twinSite counts =>
        (ih start site twinSite counts).map Stage.Mirrors.quiet note function
  | flatMap note binder parser binderIH parserIH =>
      exact fun start site twinSite counts =>
        (parserIH.onLeft .leaf start site twinSite counts).flatMap Stage.Mirrors.quiet note
          fun output => (binderIH output).onBound _ start site twinSite counts
  | sequence note combine first second firstIH secondIH =>
      exact fun start site twinSite counts =>
        (firstIH.onLeft _ start site twinSite counts).sequence Stage.Mirrors.quiet
          (secondIH.onRight _ start site twinSite counts) note combine
  | twice parser ih =>
      exact fun start site twinSite counts =>
        (ih start site twinSite counts).sequence Stage.Mirrors.quiet
          (ih start site twinSite counts) none Prod.mk
  | choice first second firstIH secondIH =>
      exact fun start site twinSite counts =>
        (firstIH.onLeft _ start site twinSite counts).choice
          (secondIH.onRight _ start site twinSite counts)
  | zeroOrMore collector parser ih =>
      exact fun start site twinSite counts =>
        (ih start site twinSite counts).zeroOrMore Stage.Mirrors.quiet collector
  | oneOrMore collector parser ih =>
      exact fun start site twinSite counts =>
        (ih start site twinSite counts).oneOrMore Stage.Mirrors.quiet collector
  | count bounds collector parser ih =>
      exact fun start site twinSite counts =>
        (ih start site twinSite counts).count Stage.Mirrors.quiet bounds collector
  | delayed name parser ih => exact ih.onFirst name
  | rule name => exact (mirrors name).onFirst (label name)
  | tap name parser ih =>
      exact fun start site twinSite counts =>
        (ih start site twinSite counts).tap Stage.Mirrors.quiet name

namespace Rules

/-- What a store knows of a rule that has been nested to a given depth at most. -/
def viewAt (rules : Rules τ Out) : Nat → ρ → Memory.View
  | 0, _ => .leaf
  | depth + 1, name => (rules.body name).view (viewAt rules depth)

theorem mirrors_attempt (rules : Rules τ Out) {depth level : Nat} (deep : depth ≤ level)
    (name : ρ) :
    (rules.attempt depth name).Mirrors (rules.viewAt level name)
      (rules.attemptShared (fun _ => none) depth name) := by
  induction depth generalizing level name with
  | zero =>
      intro start site twinSite counts memory log store twinLog cursor reply stands replies
      cases replies
  | succ depth inductionHypothesis =>
      cases level with
      | zero => cases deep
      | succ level =>
          exact Parser.mirrors_attempt rules.label
            (inductionHypothesis (Nat.le_of_succ_le_succ deep)) (rules.body name)

theorem mirrors_run (rules : Rules τ Out) {depth level : Nat} (deep : depth ≤ level)
    (parser : Parser τ Out α) :
    (rules.run depth parser).Mirrors (parser.view (rules.viewAt level))
      (rules.runShared (fun _ => none) depth parser) :=
  parser.mirrors_attempt rules.label (rules.mirrors_attempt deep)

end Rules

end Descent
