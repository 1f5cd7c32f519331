import Descent.Cursor.Basic

/-!
# Keeping many cursors

A sequence of steps on numbered slots. Some steps make a cursor, which goes into
a new slot behind the others, and the other steps look at cursors that are
there. No step changes a slot that is filled, so cursors obtained earlier stay
what they were.
-/

namespace Descent.Cursor

/-- A step on slots. Slots and sources are named by number. -/
inductive Step where
  | new (source : Nat)
  | copy (slot : Nat)
  | advance (slot : Nat) (steps : Nat)
  | peek (slot : Nat)
  | remaining (slot : Nat)
  | source (slot : Nat)
  | parts (slot : Nat)
  | same (slot other : Nat)
  | inspect (slot : Nat)

/-- What a step shows. -/
inductive Observation (τ : Type) where
  | made (cursor : Cursor τ)
  | peeked (token : τ) (next : Cursor τ)
  | nothing
  | tokens (tokens : List τ)
  | parts (tokens : List τ) (position : Nat)
  | truth (holds : Bool)
  | text (text : String)

/-- Filled slots, first to last. -/
abbrev Slots (τ : Type) := Array (Cursor τ)

namespace Slots

variable {τ : Type}

/-- Fills a new slot and shows what went in. -/
def made (slots : Slots τ) (cursor : Cursor τ) : Slots τ × Observation τ :=
  (slots.push cursor, .made cursor)

/-- Takes one step. A step that names a slot or a source that is not there has no
answer. -/
def step [Token τ] (sources : Array (Source τ)) (slots : Slots τ) :
    Step → Option (Slots τ × Observation τ)
  | .new source => (sources[source]?).map fun source => slots.made (.start source)
  | .copy slot => (slots[slot]?).map slots.made
  | .advance slot steps => (slots[slot]?).map fun cursor => slots.made (cursor.advance steps)
  | .peek slot => (slots[slot]?).map fun cursor =>
      match cursor.peek with
      | none => (slots, .nothing)
      | some (token, next) => (slots.push next, .peeked token next)
  | .remaining slot => (slots[slot]?).map fun cursor => (slots, .tokens cursor.remaining)
  | .source slot => (slots[slot]?).map fun cursor =>
      (slots, .tokens cursor.source.tokens.toList)
  | .parts slot => (slots[slot]?).map fun cursor =>
      (slots, .parts cursor.source.tokens.toList cursor.position)
  | .same slot other => do
      let left ← slots[slot]?
      let right ← slots[other]?
      return (slots, .truth (left == right))
  | .inspect slot => (slots[slot]?).map fun cursor => (slots, .text cursor.inspect)

/-- Takes steps in order, and shows what each of them does. -/
def run [Token τ] (sources : Array (Source τ)) :
    Slots τ → List Step → Option (Slots τ × List (Observation τ))
  | slots, [] => some (slots, [])
  | slots, first :: rest => do
      let (slots, seen) ← step sources slots first
      let (slots, later) ← run sources slots rest
      return (slots, seen :: later)

end Slots

end Descent.Cursor
