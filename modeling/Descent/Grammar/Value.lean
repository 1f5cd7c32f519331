import Descent.Text.Decimal
import Descent.Token.Basic

/-!
# Values

What the parsers of a grammar output. A grammar is written down as data, without
types for its outputs, so all of them share this one type: tokens, texts and
numbers, put together in lists, pairs and under tags. Functions on values are
total; each of them reads from any value what it needs.
-/

namespace Descent

/-- An output of a parsing expression over `τ` tokens. -/
inductive Value (τ : Type) where
  | unit
  | token (token : τ)
  | text (text : String)
  | int (number : Int64)
  | list (items : List (Value τ))
  | pair (first second : Value τ)
  | tagged (label : String) (value : Value τ)

namespace Value

variable {τ : Type}

section Text

variable [Token τ]

mutual

/-- The text of a value: tokens as they are described, numbers in decimal digits,
and the texts of parts one after the other. -/
def textOf : Value τ → String
  | .unit => ""
  | .token read => Token.describe read
  | .text written => written
  | .int number => toString number
  | .list items => textOfAll items
  | .pair first second => textOf first ++ textOf second
  | .tagged _ value => textOf value

/-- The texts of values one after the other. -/
def textOfAll : List (Value τ) → String
  | [] => ""
  | first :: rest => textOf first ++ textOfAll rest

end

/-- The number that a value stands for: a number is itself, and of anything else the
text is read. What denotes no 64-bit number stands for zero. -/
def intOf : Value τ → Int64
  | .int number => number
  | value => (Text.readInt64 value.textOf).getD 0

end Text

mutual

/-- The tokens in a value, in order. -/
def tokensOf : Value τ → List τ
  | .token read => [read]
  | .list items => tokensOfAll items
  | .pair first second => tokensOf first ++ tokensOf second
  | .tagged _ value => tokensOf value
  | _ => []

/-- The tokens in values, in order. -/
def tokensOfAll : List (Value τ) → List τ
  | [] => []
  | first :: rest => tokensOf first ++ tokensOfAll rest

end

/-- The items of a list. Anything else is its own single item. -/
def itemsOf : Value τ → List (Value τ)
  | .list items => items
  | value => [value]

section Equality

variable [BEq τ]

mutual

/-- Equality of values: the same form, and equal tokens in the same places. -/
def same : Value τ → Value τ → Bool
  | .unit, .unit => true
  | .token left, .token right => left == right
  | .text left, .text right => left == right
  | .int left, .int right => left == right
  | .list left, .list right => sameAll left right
  | .pair first second, .pair first' second' => same first first' && same second second'
  | .tagged label value, .tagged label' value' => label == label' && same value value'
  | _, _ => false

/-- Equality of values item by item. -/
def sameAll : List (Value τ) → List (Value τ) → Bool
  | [], [] => true
  | first :: rest, first' :: rest' => same first first' && sameAll rest rest'
  | _, _ => false

end

instance : BEq (Value τ) where
  beq := same

end Equality

end Value

end Descent
