/-!
# What a parser remembers

A delayed parser and a reference to a rule are built when they are first run,
and stay built for as long as the parser value lives, through failures and from
one run to the next. A parser value is made of many such parts, each with a
memory of its own. This module gives the parts names and says what there is to
remember.

Results never depend on memory. It decides only whether a run has to build a part
again, which the log shows.

A memory is that of a single parser value, all of whose parts are its own. Only one part
can be in two places of it, in a row with itself. Where parser values refer to others or
are copied, they keep what they remember in a store.
-/

namespace Descent

/-- A step from a parser to a part of it. -/
inductive Turn where
  /-- To the first of two parts. -/
  | left
  /-- To the second of two parts. -/
  | right
  /-- To what a delayed parser or a reference to a rule builds. -/
  | inside
  /-- To the parser that a binder returns, numbered by the calls before. -/
  | bound (call : Nat)
  /-- To a parser value by its number, from where there are several. -/
  | value (number : Nat)
  deriving DecidableEq, Repr

/-- A part of a parser value: the turns that lead to it, the last one first. -/
abbrev Site := List Turn

/-- What the parts of a parser remember, in the form of the parser itself. A parser
with a single part shares its memory with that part. -/
inductive Memory where
  /-- Nothing is built. -/
  | blank
  /-- The memories of two parts. -/
  | split (left right : Memory)
  /-- The part is built, and what was built remembers this. -/
  | opened (inside : Memory)
  /-- A binder was called so many times. What it returned is gone. -/
  | called (times : Nat)
  deriving DecidableEq, Repr

namespace Memory

/-- What the first of two parts remembers. -/
def left : Memory → Memory
  | .split left _ => left
  | _ => .blank

/-- What the second of two parts remembers. -/
def right : Memory → Memory
  | .split _ right => right
  | _ => .blank

/-- How often a binder was called. -/
def calls : Memory → Nat
  | .called times => times
  | _ => 0

@[simp] theorem left_split (first second : Memory) : (split first second).left = first := rfl

@[simp] theorem right_split (first second : Memory) : (split first second).right = second := rfl

@[simp] theorem left_blank : blank.left = blank := rfl

@[simp] theorem right_blank : blank.right = blank := rfl

@[simp] theorem calls_called (times : Nat) : (called times).calls = times := rfl

@[simp] theorem calls_blank : blank.calls = 0 := rfl

end Memory

end Descent
