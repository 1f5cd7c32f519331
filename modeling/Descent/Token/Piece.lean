import Descent.Token.Basic

/-!
# Pieces of text

A piece is a token of text cut from a larger one. Unlike a string token, a piece
that is a line break on its own ends a line, so reports on a source of pieces
follow its layout.
-/

namespace Descent

/-- A piece of text as one token. -/
structure Piece where
  text : String
  deriving DecidableEq, Repr

instance : Token Piece where
  describe piece := piece.text
  isNewline piece := piece.text == "\n"

end Descent
