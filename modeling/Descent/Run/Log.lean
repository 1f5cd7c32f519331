import Descent.Run.Memory

/-!
# The log of a run

Everything a run does besides reading tokens, in the order in which it happens.
-/

namespace Descent

/-- Something that happened during a run. -/
inductive Entry where
  /-- A function with this note was called. -/
  | noted (text : String)
  /-- A part was built. -/
  | built (site : Site) (label : String)
  /-- A tapped parser was started at a position. -/
  | visited (label : String) (position : Nat)
  deriving DecidableEq, Repr

/-- What happened, in order. -/
abbrev Log := Array Entry

namespace Entry

/-- The entry as it is shown. Which part was built is not shown, only what it is
called. -/
def text : Entry → String
  | .noted text => text
  | .built _ label => "build:" ++ label
  | .visited label position => label ++ "@" ++ toString position

end Entry

/-- The log of one call of a function that may carry a note. -/
def Log.ofNote : Option String → Log
  | none => #[]
  | some text => #[.noted text]

end Descent
