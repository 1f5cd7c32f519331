import Descent.Proofs.Lockstep

/-!
# Depth of runs

The depth of a run only says how many rules may be open at once. A run that ends at
some depth ends at every greater one, and with the same reply: it is one and the same
run. So a parser has at most one reply at a cursor, however deep its rules have to be
nested for it.
-/

namespace Descent

/-- Both runs remember and log the same. -/
def Stage.same : Stage := fun memory log twinMemory twinLog =>
  twinMemory = memory ∧ twinLog = log

theorem Stage.quiet_same : Stage.same.Quiet := by
  intro memory log twinMemory twinLog entries silent stands
  exact ⟨stands.1, congrArg (· ++ entries) stands.2⟩

namespace Attempt

variable {τ α β γ : Type}

/-- Wherever the first attempt has a reply, the second one has the same. -/
def ExtendedBy (first second : Attempt τ α) : Prop :=
  ∀ site memory cursor reply,
    first site memory cursor = some reply → second site memory cursor = some reply

namespace ExtendedBy

variable {first second : Attempt τ α}

theorem refl (attempt : Attempt τ α) : attempt.ExtendedBy attempt := by
  intro site memory cursor reply replies
  exact replies

theorem trans {third : Attempt τ α} (near : first.ExtendedBy second)
    (far : second.ExtendedBy third) : first.ExtendedBy third := by
  intro site memory cursor reply replies
  exact far site memory cursor reply (near site memory cursor reply replies)

/-- An attempt and its extension make the same run. -/
theorem lockstep (extended : first.ExtendedBy second) (site : Site) :
    Lockstep .same site site first second := by
  rintro memory log _ _ cursor reply ⟨rfl, rfl⟩ replies
  exact ⟨reply, extended _ _ _ _ replies, rfl, rfl, rfl⟩

theorem of_lockstep (lockstep : ∀ site, Lockstep .same site site first second) :
    first.ExtendedBy second := by
  intro site memory cursor reply replies
  have same : Stage.same memory #[] memory #[] := ⟨rfl, rfl⟩
  obtain ⟨answer, answers, outcome, sameMemory, sameLog⟩ := lockstep site same replies
  rw [answers]
  rcases answer with ⟨_, _, _⟩
  rcases reply with ⟨_, _, _⟩
  simp_all

/-! ## Parts of a parser value -/

/-- What is made of a reply is made of the same reply of an extension. -/
theorem bind (extended : first.ExtendedBy second) {site : Site} {memory : Memory}
    {cursor : Cursor τ} {next : Reply τ α → Option (Reply τ β)} {reply : Reply τ β}
    (replies : (first site memory cursor).bind next = some reply) :
    (second site memory cursor).bind next = some reply := by
  obtain ⟨between, replied, more⟩ := Option.bind_eq_some_iff.mp replies
  rw [extended _ _ _ _ replied]
  exact more

theorem onLeft (extended : first.ExtendedBy second) :
    first.onLeft.ExtendedBy second.onLeft := by
  intro site memory cursor reply replies
  exact extended.bind replies

theorem onRight (extended : first.ExtendedBy second) :
    first.onRight.ExtendedBy second.onRight := by
  intro site memory cursor reply replies
  exact extended.bind replies

theorem onBound (extended : first.ExtendedBy second) :
    first.onBound.ExtendedBy second.onBound := by
  intro site memory cursor reply replies
  exact extended.bind replies

theorem onDemand (extended : first.ExtendedBy second) (label : String) :
    (first.onDemand label).ExtendedBy (second.onDemand label) := by
  intro site memory cursor reply replies
  cases memory with
  | opened inside => exact extended.bind replies
  | blank | split _ _ | called _ => exact extended.bind replies

end ExtendedBy

end Attempt

/-! ## Parsers -/

variable {τ ρ : Type} [Token τ] {Out : ρ → Type} {α : Type}

theorem Parser.extendedBy_attempt (label : ρ → String)
    {enter deeper : (name : ρ) → Attempt τ (Out name)}
    (extended : ∀ name, (enter name).ExtendedBy (deeper name)) (parser : Parser τ Out α) :
    (parser.attempt label enter).ExtendedBy (parser.attempt label deeper) := by
  induction parser with
  | satisfy note expected accepts => exact .refl _
  | tokens run => exact .refl _
  | eof => exact .refl _
  | pure value => exact .refl _
  | fail expected actual => exact .refl _
  | map note function parser ih =>
      exact .of_lockstep fun site => (ih.lockstep site).map Stage.quiet_same note function
  | flatMap note binder parser binderIH parserIH =>
      exact .of_lockstep fun site =>
        (parserIH.onLeft.lockstep site).flatMap Stage.quiet_same note fun output =>
          (binderIH output).onBound.lockstep site
  | sequence note combine first second firstIH secondIH =>
      exact .of_lockstep fun site =>
        (firstIH.onLeft.lockstep site).sequence Stage.quiet_same
          (secondIH.onRight.lockstep site) note combine
  | twice parser ih =>
      exact .of_lockstep fun site =>
        (ih.lockstep site).sequence Stage.quiet_same (ih.lockstep site) none Prod.mk
  | choice first second firstIH secondIH =>
      exact .of_lockstep fun site =>
        (firstIH.onLeft.lockstep site).choice (secondIH.onRight.lockstep site)
  | zeroOrMore collector parser ih =>
      exact .of_lockstep fun site => (ih.lockstep site).zeroOrMore Stage.quiet_same collector
  | oneOrMore collector parser ih =>
      exact .of_lockstep fun site => (ih.lockstep site).oneOrMore Stage.quiet_same collector
  | count bounds collector parser ih =>
      exact .of_lockstep fun site =>
        (ih.lockstep site).count Stage.quiet_same bounds collector
  | delayed name parser ih => exact ih.onDemand name
  | rule name => exact (extended name).onDemand (label name)
  | tap name parser ih =>
      exact .of_lockstep fun site => (ih.lockstep site).tap Stage.quiet_same name

namespace Rules

theorem extendedBy_attempt_succ (rules : Rules τ Out) (depth : Nat) (name : ρ) :
    (rules.attempt depth name).ExtendedBy (rules.attempt (depth + 1) name) := by
  induction depth generalizing name with
  | zero =>
      intro site memory cursor reply replies
      cases replies
  | succ depth inductionHypothesis =>
      exact Parser.extendedBy_attempt rules.label inductionHypothesis (rules.body name)

theorem extendedBy_attempt (rules : Rules τ Out) {depth deeper : Nat}
    (deep : depth ≤ deeper) (name : ρ) :
    (rules.attempt depth name).ExtendedBy (rules.attempt deeper name) := by
  induction deep with
  | refl => exact .refl _
  | step deep inductionHypothesis =>
      exact inductionHypothesis.trans (rules.extendedBy_attempt_succ _ name)

/-- A run that ends has the same reply at every greater depth. -/
theorem run_of_le (rules : Rules τ Out) {depth deeper : Nat} (deep : depth ≤ deeper)
    {parser : Parser τ Out α} {site : Site} {memory : Memory} {cursor : Cursor τ}
    {reply : Reply τ α} (replies : rules.run depth parser site memory cursor = some reply) :
    rules.run deeper parser site memory cursor = some reply :=
  Parser.extendedBy_attempt rules.label (rules.extendedBy_attempt deep) parser _ _ _ _
    replies

end Rules

end Descent
