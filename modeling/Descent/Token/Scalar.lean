import Descent.Token.Basic

/-!
# Characters, numbers and other plain tokens

Characters are written one after the other and know line ends. Numbers, truth
values and strings are shown as they are written, with a blank between
neighbours, and none of them ends a line.
-/

namespace Descent

instance : Token Char where
  describe := String.singleton
  separator := ""
  isNewline c := c == '\n'

instance : Token UInt16 where
  describe := toString

instance : Token UInt32 where
  describe := toString

instance : Token UInt64 where
  describe := toString

instance : Token Int8 where
  describe := toString

instance : Token Int16 where
  describe := toString

instance : Token Int32 where
  describe := toString

instance : Token Int64 where
  describe := toString

instance : Token Bool where
  describe := toString

instance : Token String where
  describe := id

end Descent
