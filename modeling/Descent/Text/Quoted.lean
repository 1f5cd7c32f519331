import Descent.Text.Invisible

/-!
# Quoted text

Diagnostics that show a value in full put its texts between double quotes.
Inside the quotes a reader can tell every character from the quotes themselves
and from its neighbours: the quote, the backslash and the usual layout
characters have two-character escapes, and a character that would not be
visible on its own is written as its code point in hexadecimal digits.
-/

namespace Descent.Text

/-- The characters that stand for one character inside quotes. -/
def escape (c : Char) : List Char :=
  if c = '\t' then ['\\', 't']
  else if c = '\n' then ['\\', 'n']
  else if c = '\r' then ['\\', 'r']
  else if c = '\x00' then ['\\', '0']
  else if c = '"' then ['\\', '"']
  else if c = '\\' then ['\\', '\\']
  else if isInvisible c then
    ['\\', 'u', '\x7b'] ++ Nat.toDigits 16 c.toNat ++ ['\x7d']
  else [c]

/-- The text between double quotes, with every character escaped as needed. -/
def quoted (text : String) : String :=
  String.ofList ('"' :: text.toList.flatMap escape ++ ['"'])

@[simp] theorem toList_quoted (text : String) :
    (quoted text).toList = '"' :: text.toList.flatMap escape ++ ['"'] := by
  simp [quoted]

end Descent.Text
