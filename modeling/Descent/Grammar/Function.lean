import Descent.Grammar.Value
import Descent.Repetition.Collector

/-!
# Named functions

The tests, functions and collections that a grammar written as data may use, by
name and with their meaning. Arithmetic is on 64-bit numbers and wraps.
-/

namespace Descent

/-- A named test of a token. All but the first three look at its description. -/
inductive Predicate where
  | always
  | never
  /-- The token ends a line. -/
  | newline
  /-- ASCII digits only, and at least one. -/
  | digit
  /-- ASCII letters only, and at least one. -/
  | alpha
  /-- ASCII capital letters only, and at least one. -/
  | upper
  /-- Blanks, tabs and line breaks only, and at least one. -/
  | space
  /-- The last character is an even digit. -/
  | even
  /-- One character. -/
  | single
  deriving DecidableEq, Repr

namespace Predicate

/-- Whether a text has a first character, and every character passes a test. -/
def allOf (test : Char → Bool) (text : String) : Bool :=
  !text.isEmpty && text.toList.all test

/-- Whether a token passes a named test. -/
def holds {τ : Type} [Token τ] (predicate : Predicate) (token : τ) : Bool :=
  let text := Token.describe token
  match predicate with
  | .always => true
  | .never => false
  | .newline => Token.isNewline token
  | .digit => allOf Char.isDigit text
  | .alpha => allOf Char.isAlpha text
  | .upper => allOf Char.isUpper text
  | .space => allOf (fun c => [' ', '\t', '\n', '\r'].contains c) text
  | .even => text.toList.getLast?.any fun c => ['0', '2', '4', '6', '8'].contains c
  | .single => text.length == 1

end Predicate

/-- A named function of one value. -/
inductive Transform (τ : Type) where
  | identity
  | text
  | int
  /-- The number with its sign changed. -/
  | negative
  /-- The next number. -/
  | successor
  /-- How many items there are. -/
  | length
  | sum
  | product
  /-- The first part of a pair. -/
  | first
  /-- The second part of a pair. -/
  | second
  | unit
  | constant (value : Value τ)
  | tag (label : String)
  | tokens

namespace Transform

variable {τ : Type} [Token τ]

/-- What a named function makes of a value. -/
def apply : Transform τ → Value τ → Value τ
  | .identity, value => value
  | .text, value => .text value.textOf
  | .int, value => .int value.intOf
  | .negative, value => .int (-value.intOf)
  | .successor, value => .int (value.intOf + 1)
  | .length, value => .int (Int64.ofNat value.itemsOf.length)
  | .sum, value => .int (value.itemsOf.foldl (fun total item => total + item.intOf) 0)
  | .product, value => .int (value.itemsOf.foldl (fun total item => total * item.intOf) 1)
  | .first, .pair part _ => part
  | .first, value => value
  | .second, .pair _ part => part
  | .second, value => value
  | .unit, _ => .unit
  | .constant value, _ => value
  | .tag label, value => .tagged label value
  | .tokens, value => .list (value.tokensOf.map .token)

end Transform

/-- A named function of two values. -/
inductive Combination where
  | pair
  | add
  | subtract
  | multiply
  /-- The texts one after the other. -/
  | concat
  /-- The first value before the items of the second. -/
  | cons
  /-- The first value as a number, changed by each item of the second: an item that
  pairs an operator with a number is subtracted or multiplied if the operator says so,
  and every other is added. -/
  | fold
  deriving DecidableEq, Repr

namespace Combination

variable {τ : Type} [Token τ]

/-- What one item makes of the number so far. -/
def operate (total : Int64) : Value τ → Int64
  | .pair operator operand =>
      let symbol := operator.textOf
      if symbol = "-" then total - operand.intOf
      else if symbol = "*" then total * operand.intOf
      else total + operand.intOf
  | operand => total + operand.intOf

/-- What a named function makes of two values. -/
def apply : Combination → Value τ → Value τ → Value τ
  | .pair, first, second => .pair first second
  | .add, first, second => .int (first.intOf + second.intOf)
  | .subtract, first, second => .int (first.intOf - second.intOf)
  | .multiply, first, second => .int (first.intOf * second.intOf)
  | .concat, first, second => .text (first.textOf ++ second.textOf)
  | .cons, first, second => .list (first :: second.itemsOf)
  | .fold, first, second => .int (second.itemsOf.foldl operate first.intOf)

end Combination

/-- A named way to gather the outputs of a repetition. -/
inductive Gathering where
  /-- All outputs in a list. -/
  | list
  /-- The texts of the outputs, joined. -/
  | text
  /-- The different texts of the outputs in ascending order. -/
  | texts
  /-- Nothing. -/
  | nothing
  deriving DecidableEq, Repr

/-- A collector together with the value that stands for what it has gathered. -/
structure Gathering.Plan (τ : Type) where
  Gathered : Type
  collector : Collector (Value τ) Gathered
  value : Gathered → Value τ

/-- How a named way of gathering is carried out. -/
def Gathering.plan {τ : Type} [Token τ] : Gathering → Gathering.Plan τ
  | .list => ⟨Array (Value τ), .array, fun items => .list items.toList⟩
  | .text => ⟨String, .text Value.textOf, .text⟩
  | .texts => ⟨List String, .texts Value.textOf, fun texts => .list (texts.map .text)⟩
  | .nothing => ⟨Unit, .unit, fun _ => .unit⟩

end Descent
