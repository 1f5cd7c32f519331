/-!
# Reading decimal numbers

A number is an optional sign and one or more ASCII digits, with nothing before,
between or behind them. Reading a 64-bit number fails, rather than wraps, when the
digits denote a number out of range.
-/

namespace Descent.Text

/-- The number that digits denote. -/
def readNatural (digits : List Char) : Option Nat :=
  if digits.isEmpty || !digits.all Char.isDigit then none
  else some (digits.foldl (fun value digit => value * 10 + (digit.toNat - '0'.toNat)) 0)

/-- The number that digits behind an optional sign denote. -/
def readInteger : List Char → Option Int
  | '+' :: digits => (readNatural digits).map fun value => (value : Int)
  | '-' :: digits => (readNatural digits).map fun value => -(value : Int)
  | digits => (readNatural digits).map fun value => (value : Int)

/-- The 64-bit number that a text denotes. A number out of range is not the one that
its lowest 64 bits denote. -/
def readInt64 (text : String) : Option Int64 := do
  let value ← readInteger text.toList
  if (Int64.ofInt value).toInt = value then some (Int64.ofInt value) else none

end Descent.Text
