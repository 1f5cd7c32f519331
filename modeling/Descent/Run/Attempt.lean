import Descent.Error.Basic
import Descent.Run.Log

/-!
# Attempts

An attempt is what a parser does: from a cursor, it tries to match what stands
there. It is told which part of a parser value it is and what that part
remembers, and it replies with the outcome, with what the part remembers from now
on, and with the log of what happened. An attempt that does not come to an end
has no reply.

The operations below are those of which all parsers are made, except for
repetitions. An operation on two attempts lets the second one start with the
memory that the first one left. Most of them only hand on what is remembered, so
they are the same for anything that may be. If nothing else is said, each part has
a memory of its own.
-/

namespace Descent

/-- A success: an output, and the cursor behind what was matched. -/
structure Match (τ α : Type) where
  value : α
  rest : Cursor τ

/-- How an attempt ends. -/
abbrev Outcome (τ α : Type) := Except (ParseError τ) (Match τ α)

/-- All that an attempt replies. -/
structure Reply (τ α : Type) (μ : Type := Memory) where
  outcome : Outcome τ α
  memory : μ
  log : Log

/-- What a parser does at a cursor. There is no reply if it never ends. -/
def Attempt (τ α : Type) (μ : Type := Memory) :=
  Site → μ → Cursor τ → Option (Reply τ α μ)

namespace Reply

variable {τ α β μ : Type}

/-- Puts what happened before in front of the log. -/
def after (earlier : Log) (reply : Reply τ α μ) : Reply τ α μ :=
  { reply with log := earlier ++ reply.log }

@[simp] theorem outcome_after (earlier : Log) (reply : Reply τ α μ) :
    (reply.after earlier).outcome = reply.outcome := rfl

@[simp] theorem memory_after (earlier : Log) (reply : Reply τ α μ) :
    (reply.after earlier).memory = reply.memory := rfl

@[simp] theorem log_after (earlier : Log) (reply : Reply τ α μ) :
    (reply.after earlier).log = earlier ++ reply.log := rfl

/-- Changes what is remembered. -/
def mapMemory (change : μ → μ) (reply : Reply τ α μ) : Reply τ α μ :=
  { reply with memory := change reply.memory }

@[simp] theorem outcome_mapMemory (change : μ → μ) (reply : Reply τ α μ) :
    (reply.mapMemory change).outcome = reply.outcome := rfl

@[simp] theorem memory_mapMemory (change : μ → μ) (reply : Reply τ α μ) :
    (reply.mapMemory change).memory = change reply.memory := rfl

@[simp] theorem log_mapMemory (change : μ → μ) (reply : Reply τ α μ) :
    (reply.mapMemory change).log = reply.log := rfl

end Reply

namespace Attempt

variable {τ α β γ μ : Type}

/-! ## Single steps -/

/-- Succeeds without reading. -/
def pure (value : α) : Attempt τ α μ := fun _ memory cursor =>
  some ⟨.ok ⟨value, cursor⟩, memory, #[]⟩

/-- Fails without reading. -/
def fail (cause : Cause) : Attempt τ α μ := fun _ memory cursor =>
  some ⟨.error ⟨cursor, cause⟩, memory, #[]⟩

/-- Reads one token that passes a test. The test is not called at the end. -/
def satisfy [Token τ] (note : Option String) (expected : String) (accepts : τ → Bool) :
    Attempt τ τ μ := fun _ memory cursor =>
  match cursor.peek with
  | none => some ⟨.error (.unexpected cursor expected), memory, #[]⟩
  | some (token, next) =>
      if accepts token then
        some ⟨.ok ⟨token, next⟩, memory, Log.ofNote note⟩
      else
        some ⟨.error (.unexpected cursor expected), memory, Log.ofNote note⟩

/-- Reads a run of tokens. All tokens that stand where the run should are shown if it
does not match, and the failure is at the first of them. -/
def tokens [Token τ] (run : List τ) : Attempt τ (List τ) μ := fun _ memory cursor =>
  let window := cursor.window run.length
  if window == run then
    some ⟨.ok ⟨run, cursor.advance window.length⟩, memory, #[]⟩
  else
    let actual := if window.isEmpty then endOfInput else Token.describeAll window
    some ⟨.error (.mismatch cursor (Token.describeAll run) actual), memory, #[]⟩

/-- Succeeds at the end of input. -/
def eof [Token τ] : Attempt τ Unit μ := fun _ memory cursor =>
  if cursor.atEnd then
    some ⟨.ok ⟨(), cursor⟩, memory, #[]⟩
  else
    some ⟨.error (.unexpected cursor endOfInput), memory, #[]⟩

/-! ## One attempt after another -/

/-- Changes the output. The function is called on success only. -/
def map (note : Option String) (function : α → β) (attempt : Attempt τ α μ) :
    Attempt τ β μ := fun site memory cursor => do
  let reply ← attempt site memory cursor
  match reply.outcome with
  | .error error => some ⟨.error error, reply.memory, reply.log⟩
  | .ok found =>
      some ⟨.ok ⟨function found.value, found.rest⟩, reply.memory,
        reply.log ++ Log.ofNote note⟩

/-- Goes on with an attempt that is chosen by the output. -/
def flatMap (note : Option String) (binder : α → Attempt τ β μ) (attempt : Attempt τ α μ) :
    Attempt τ β μ := fun site memory cursor => do
  let reply ← attempt site memory cursor
  match reply.outcome with
  | .error error => some ⟨.error error, reply.memory, reply.log⟩
  | .ok found =>
      let next ← binder found.value site reply.memory found.rest
      some (next.after (reply.log ++ Log.ofNote note))

/-- Makes two attempts in a row and combines their outputs. The first failure is the
failure of both. -/
def sequence (note : Option String) (combine : α → β → γ) (first : Attempt τ α μ)
    (second : Attempt τ β μ) : Attempt τ γ μ := fun site memory cursor => do
  let reply ← first site memory cursor
  match reply.outcome with
  | .error error => some ⟨.error error, reply.memory, reply.log⟩
  | .ok found =>
      let next ← second site reply.memory found.rest
      match next.outcome with
      | .error error => some ⟨.error error, next.memory, reply.log ++ next.log⟩
      | .ok further =>
          some ⟨.ok ⟨combine found.value further.value, further.rest⟩, next.memory,
            reply.log ++ next.log ++ Log.ofNote note⟩

/-- Makes a second attempt at the same place if the first one fails. If both fail,
the failure further into the input is reported. -/
def choice (first second : Attempt τ α μ) : Attempt τ α μ := fun site memory cursor => do
  let reply ← first site memory cursor
  match reply.outcome with
  | .ok found => some ⟨.ok found, reply.memory, reply.log⟩
  | .error error =>
      let next ← second site reply.memory cursor
      match next.outcome with
      | .ok found => some ⟨.ok found, next.memory, reply.log ++ next.log⟩
      | .error other =>
          some ⟨.error (error.furthest other), next.memory, reply.log ++ next.log⟩

/-- Leaves the position in the log and goes on. -/
def tap (label : String) (attempt : Attempt τ α μ) : Attempt τ α μ :=
  fun site memory cursor => do
    let reply ← attempt site memory cursor
    some (reply.after #[.visited label cursor.position])

/-! ## Parts of a parser value -/

/-- The attempt of the first of two parts. -/
def onLeft (attempt : Attempt τ α) : Attempt τ α := fun site memory cursor => do
  let reply ← attempt (.left :: site) memory.left cursor
  some (reply.mapMemory fun left => .split left memory.right)

/-- The attempt of the second of two parts. -/
def onRight (attempt : Attempt τ α) : Attempt τ α := fun site memory cursor => do
  let reply ← attempt (.right :: site) memory.right cursor
  some (reply.mapMemory fun right => .split memory.left right)

/-- The attempt of a parser that a binder returned. It is a new parser value on each
call, so it starts with nothing built and nothing of it is kept. -/
def onBound (attempt : Attempt τ α) : Attempt τ α := fun site memory cursor => do
  let calls := memory.right.calls
  let reply ← attempt (.bound calls :: site) .blank cursor
  some (reply.mapMemory fun _ => .split memory.left (.called (calls + 1)))

/-- The attempt of a part that is built when it is first run. -/
def onDemand (label : String) (attempt : Attempt τ α) : Attempt τ α :=
  fun site memory cursor =>
    match memory with
    | .opened inside => do
        let reply ← attempt (.inside :: site) inside cursor
        some (reply.mapMemory .opened)
    | _ => do
        let reply ← attempt (.inside :: site) .blank cursor
        some ((reply.mapMemory .opened).after #[.built site label])

end Attempt

end Descent
