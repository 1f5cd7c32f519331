/-!
# Text from bytes that may not be text

Bytes are read as UTF-8, and what is not UTF-8 is shown rather than refused.
The decoder reads one byte at a time. Between two bytes it remembers the
sequence it is in the middle of, together with the range that the next byte has
to lie in for the sequence to stay well formed. A byte outside that range ends
the sequence: what was read of it becomes one replacement character, and the
byte is looked at again as the start of the next sequence. So exactly one
replacement character stands for each longest piece that begins a well-formed
sequence without completing it, and one for each byte that begins none.
-/

namespace Descent.Text.Utf8

/-- What stands for bytes that are no character. -/
def replacement : Char := '\uFFFD'

/-- A position between two bytes: outside every sequence, or inside one that
still wants a byte from `low` to `high` and then `further` more. The scalar value
gathered from the bytes read so far is `gathered`. -/
inductive State where
  | outside
  | within (low high : UInt8) (further : Nat) (gathered : Nat)
  deriving DecidableEq, Repr

/-- The state after one byte, and the characters that the byte completes. -/
structure Step where
  state : State
  emitted : List Char

/-- Reads a byte outside every sequence. The ranges leave out overlong
sequences, surrogates and values past the last scalar value. -/
def lead (byte : UInt8) : Step :=
  let bits := byte.toNat
  if bits < 0x80 then ⟨.outside, [Char.ofNat bits]⟩
  else if bits < 0xC2 then ⟨.outside, [replacement]⟩
  else if bits < 0xE0 then ⟨.within 0x80 0xBF 0 (bits - 0xC0), []⟩
  else if bits = 0xE0 then ⟨.within 0xA0 0xBF 1 0, []⟩
  else if bits = 0xED then ⟨.within 0x80 0x9F 1 (bits - 0xE0), []⟩
  else if bits < 0xF0 then ⟨.within 0x80 0xBF 1 (bits - 0xE0), []⟩
  else if bits = 0xF0 then ⟨.within 0x90 0xBF 2 0, []⟩
  else if bits < 0xF4 then ⟨.within 0x80 0xBF 2 (bits - 0xF0), []⟩
  else if bits = 0xF4 then ⟨.within 0x80 0x8F 2 (bits - 0xF0), []⟩
  else ⟨.outside, [replacement]⟩

/-- Reads one byte in any state. -/
def step (state : State) (byte : UInt8) : Step :=
  match state with
  | .outside => lead byte
  | .within low high further gathered =>
      if low ≤ byte ∧ byte ≤ high then
        let value := gathered * 64 + (byte.toNat - 0x80)
        match further with
        | 0 => ⟨.outside, [Char.ofNat value]⟩
        | more + 1 => ⟨.within 0x80 0xBF more value, []⟩
      else
        let next := lead byte
        ⟨next.state, replacement :: next.emitted⟩

/-- Reads bytes one after the other. -/
def feed : State → List UInt8 → Step
  | state, [] => ⟨state, []⟩
  | state, byte :: rest =>
      let next := step state byte
      let later := feed next.state rest
      ⟨later.state, next.emitted ++ later.emitted⟩

/-- Bytes may be read in two portions. -/
theorem feed_append (state : State) (first second : List UInt8) :
    feed state (first ++ second) =
      ⟨(feed (feed state first).state second).state,
        (feed state first).emitted ++ (feed (feed state first).state second).emitted⟩ := by
  induction first generalizing state with
  | nil => rfl
  | cons byte first ih => simp [feed, ih]

/-- What the end of the bytes adds: a sequence cut short is shown as one
replacement character. -/
def finish : State → List Char
  | .outside => []
  | .within .. => [replacement]

/-- The characters that bytes show as. -/
def decode (bytes : List UInt8) : List Char :=
  let read := feed .outside bytes
  read.emitted ++ finish read.state

@[simp] theorem decode_nil : decode [] = [] := rfl

/-- The text that bytes show as. -/
def text (bytes : List UInt8) : String :=
  String.ofList (decode bytes)

@[simp] theorem toList_text (bytes : List UInt8) : (text bytes).toList = decode bytes := by
  simp [text]

end Descent.Text.Utf8
