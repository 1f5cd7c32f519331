import Descent.Repetition.Bounds

/-!
# Ranges of counts

The ways to write down how often something is to be repeated: one count, or a
range of counts with or without its ends. Counts come from integer types of
several widths; all of them are brought to the 64 bits of bounds, and what does
not fit is replaced by the nearest number that does. Types that are as wide as the
words of a machine are taken to have 64 bits.
-/

namespace Descent

/-- The integer types that counts come from. -/
inductive Width where
  | signed32
  | signed64
  | unsigned32
  | unsigned64
  deriving DecidableEq, Repr

namespace Width

/-- The least integer of the width. -/
def least : Width → Int
  | .signed32 => -0x80000000
  | .signed64 => -0x8000000000000000
  | .unsigned32 | .unsigned64 => 0

/-- The greatest integer of the width. -/
def greatest : Width → Int
  | .signed32 => 0x7FFFFFFF
  | .signed64 => 0x7FFFFFFFFFFFFFFF
  | .unsigned32 => 0xFFFFFFFF
  | .unsigned64 => 0xFFFFFFFFFFFFFFFF

/-- Whether an integer is one of the width. -/
def contains (width : Width) (value : Int) : Bool :=
  width.least ≤ value && value ≤ width.greatest

theorem contains_iff {width : Width} {value : Int} :
    width.contains value = true ↔ width.least ≤ value ∧ value ≤ width.greatest := by
  simp [contains]

end Width

/-- A way to write down counts. -/
inductive Span where
  /-- This count and no other. -/
  | exact (count : Int)
  /-- From the first count to just before the second. -/
  | halfOpen (start stop : Int)
  /-- From the first count to the second. -/
  | closed (start stop : Int)
  /-- This count or more. -/
  | atLeast (start : Int)
  /-- Fewer than this count. -/
  | below (stop : Int)
  /-- This count or fewer. -/
  | atMost (stop : Int)
  deriving DecidableEq, Repr

namespace Span

/-- The 64-bit number nearest to an integer. -/
def saturate (value : Int) : Int64 :=
  if value < Width.signed64.least then Int64.ofInt Width.signed64.least
  else if Width.signed64.greatest < value then Int64.ofInt Width.signed64.greatest
  else Int64.ofInt value

/-- A number that has 64 bits is kept. -/
theorem toInt_saturate_of_contains {value : Int}
    (fits : Width.signed64.contains value = true) : (saturate value).toInt = value := by
  have ⟨low, high⟩ := Width.contains_iff.mp fits
  rw [saturate, if_neg (Int.not_lt.mpr low), if_neg (Int.not_lt.mpr high)]
  simp only [Width.least, Width.greatest] at low high
  exact Int64.toInt_ofInt_of_le (by omega) (by omega)

/-- The last count of a range that stops just before a given one. The stop is
brought to 64 bits first and then lowered by one, where there is a lower number. -/
def lastBefore (stop : Int) : Int64 :=
  saturate ((saturate stop).toInt - 1)

/-- The bounds that a range of counts stands for. A range without a start admits no
match at all. -/
def bounds : Span → Bounds
  | .exact count => .exactly (saturate count)
  | .halfOpen start stop => ⟨saturate start, some (lastBefore stop)⟩
  | .closed start stop => ⟨saturate start, some (saturate stop)⟩
  | .atLeast start => ⟨saturate start, none⟩
  | .below stop => ⟨0, some (lastBefore stop)⟩
  | .atMost stop => ⟨0, some (saturate stop)⟩

/-- Whether all counts that the range is written with are integers of a width. -/
def fits (width : Width) : Span → Bool
  | .exact count => width.contains count
  | .halfOpen start stop | .closed start stop =>
      width.contains start && width.contains stop
  | .atLeast start => width.contains start
  | .below stop | .atMost stop => width.contains stop

end Span

end Descent
