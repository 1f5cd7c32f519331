/-!
# Tokens

Parsers read sequences of tokens, and tokens may be anything that can be
compared and shown: characters, bytes, numbers, words, lexemes. This module
says what a token type provides. Equality decides what matches and may be
coarser than identity; descriptions are only ever shown, in error messages and
reports, and never decide anything.
-/

namespace Descent

/-- A type whose values can be parsed. -/
class Token (τ : Type) where
  /-- Which tokens match each other. -/
  [equality : BEq τ]
  /-- One token as text. -/
  describe : τ → String
  /-- What stands between the descriptions of neighbouring tokens. -/
  separator : String := " "
  /-- Several tokens as one text. -/
  describeAll : List τ → String :=
    fun tokens => separator.intercalate (tokens.map describe)
  /-- Whether the token ends a line of the source. -/
  isNewline : τ → Bool := fun _ => false

/-- Tokens of any type are compared by that type's equality. For a known type its own
instance comes first, so that it is the same equality as outside of parsing. -/
instance (priority := low) Token.beqOfToken {τ : Type} [Token τ] : BEq τ :=
  Token.equality

end Descent
