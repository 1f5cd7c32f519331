import Descent.Error.Basic

/-!
# Lines and offsets

A location names a place in a source the way a reader counts: the number of the
line, from one, and the number of tokens before the place on that line. A
newline token belongs to the line that it ends.
-/

namespace Descent

/-- A place by line and by tokens within the line. -/
structure Location where
  line : Nat
  offset : Nat
  deriving DecidableEq, Repr

namespace Location

variable {τ : Type} [Token τ]

/-- Where a source starts. -/
def origin : Location := ⟨1, 0⟩

/-- The location behind a token. -/
def after (location : Location) (token : τ) : Location :=
  if Token.isNewline token then ⟨location.line + 1, 0⟩
  else ⟨location.line, location.offset + 1⟩

/-- The location with a number of tokens before it. -/
def locate (tokens : List τ) (position : Nat) : Location :=
  (tokens.take position).foldl after origin

@[simp] theorem locate_zero (tokens : List τ) : locate tokens 0 = origin := rfl

/-- One token further on is the location behind that token. -/
theorem locate_succ {tokens : List τ} {position : Nat}
    (within : position < tokens.length) :
    locate tokens (position + 1) = (locate tokens position).after tokens[position] := by
  rw [locate, List.take_add_one, List.getElem?_eq_getElem within, List.foldl_append]
  rfl

end Location

/-- Where the failure was noticed. -/
def ParseError.location {τ : Type} [Token τ] (error : ParseError τ) : Location :=
  .locate error.remainder.source.tokens.toList error.position

end Descent
