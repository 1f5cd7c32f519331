import Descent.Text.Quoted
import Descent.Token.Basic

/-!
# Lexemes

What a tokenizer for a small expression language delivers: operators, numbers
and identifiers. A lexeme is shown by naming its kind and what it carries, and
takes the defaults of a token type for everything else.
-/

namespace Descent

/-- A lexeme of a small expression language. -/
inductive Lexeme where
  | plus
  | comma
  | number (value : Int64)
  | identifier (name : String)
  deriving DecidableEq

namespace Lexeme

/-- The kind of lexeme, followed by what it carries. -/
def describe : Lexeme → String
  | .plus => "Plus"
  | .comma => "Comma"
  | .number value => "Number(" ++ toString value ++ ")"
  | .identifier name => "Ident(" ++ Text.quoted name ++ ")"

end Lexeme

instance : Token Lexeme where
  describe := Lexeme.describe

end Descent
