import Descent.Grammar.Expr
import Descent.Run.Rules

/-!
# Running a grammar

A grammar is a parsing expression with a table of rules. It can be asked to read
all of a source, or to match what stands at a cursor, and one parser value can be
run many times in a session, during which it keeps what it has built.

A run may nest every rule once for each token left, and once more at the end; inside
all of these there is room for a name without a rule. A run that would have to nest
rules deeper opens one of them a second time at the same place, and therefore again
and again: it never ends, and has no reply.
-/

namespace Descent

/-- A parsing expression and the rules that it may refer to. -/
structure Grammar (τ : Type) where
  start : Expr τ
  rules : List (String × Expr τ)

namespace Grammar

variable {τ : Type} [Token τ]

/-- The rules as a table. A name without a rule matches nothing. -/
def table (grammar : Grammar τ) : Rules τ (fun _ : String => Value τ) where
  label name := name
  body name :=
    match grammar.rules.lookup name with
    | some expr => expr.parser
    | none => .fail ("a rule named " ++ name) "none"

/-- How deep rules may be nested in a run that ends. -/
def depth (grammar : Grammar τ) (cursor : Cursor τ) : Nat :=
  grammar.rules.length * (cursor.remainingLength + 1) + 1

/-- Matches what stands at a cursor with a parser value that remembers earlier runs. -/
def resume (grammar : Grammar τ) (memory : Memory) (cursor : Cursor τ) :
    Option (Reply τ (Value τ)) :=
  grammar.table.run (grammar.depth cursor) grammar.start.parser [] memory cursor

/-- Matches what stands at a cursor with a new parser value. -/
def run (grammar : Grammar τ) (cursor : Cursor τ) : Option (Reply τ (Value τ)) :=
  grammar.resume .blank cursor

/-- Reads all of a source with a new parser value. -/
def parse (grammar : Grammar τ) (source : Source τ) : Option (Reply τ (Value τ)) :=
  grammar.table.parse (grammar.depth (.start source)) grammar.start.parser source

end Grammar

/-- Whether two attempts end alike: with equal outputs at equal cursors, or with equal
errors. -/
def Outcome.same {τ α : Type} [BEq α] : Outcome τ α → Outcome τ α → Bool
  | .ok left, .ok right => left.value == right.value && left.rest == right.rest
  | .error left, .error right => left == right
  | _, _ => false

/-- A run of one parser value within a session. -/
structure Session.Step (τ : Type) where
  /-- The tokens of a new source to start on. Without them the run starts where the
  session stands. -/
  input : Option (Array τ)
  /-- How many tokens to pass over first. -/
  skip : Nat

/-- Where a session stands: what the parser value remembers, a cursor, and how many
sources there have been. -/
structure Session (τ : Type) where
  memory : Memory
  cursor : Cursor τ
  sources : Nat

namespace Session

variable {τ : Type} [Token τ]

/-- A session with nothing built, on an empty source. -/
def start : Session τ :=
  ⟨.blank, .start ⟨0, #[]⟩, 1⟩

/-- The cursor that a step starts from, and the number of sources with it. -/
def enter (session : Session τ) (step : Step τ) : Cursor τ × Nat :=
  match step.input with
  | some tokens =>
      ((Cursor.start ⟨session.sources, tokens⟩).advance step.skip, session.sources + 1)
  | none => (session.cursor.advance step.skip, session.sources)

/-- Runs the parser value once more. The session then stands behind what was matched,
or where the run started if it failed. -/
def step (grammar : Grammar τ) (session : Session τ) (step : Step τ) :
    Option (Session τ × Reply τ (Value τ)) := do
  let (cursor, sources) := session.enter step
  let reply ← grammar.resume session.memory cursor
  let next := match reply.outcome with
    | .ok found => found.rest
    | .error _ => cursor
  return (⟨reply.memory, next, sources⟩, reply)

/-- Runs the parser value once for each step. -/
def run (grammar : Grammar τ) :
    Session τ → List (Step τ) → Option (List (Reply τ (Value τ)))
  | _, [] => some []
  | session, first :: rest => do
      let (session, reply) ← session.step grammar first
      let later ← run grammar session rest
      return reply :: later

end Session

end Descent
