import Descent.Text.Utf8
import Descent.Token.Basic

/-!
# Byte tokens

Bytes are shown as the UTF-8 text they encode. The text of several bytes is
decoded as a whole, because a character may span several bytes: it is not the
texts of the single bytes put together.
-/

namespace Descent

instance : Token UInt8 where
  describe byte := Text.Utf8.text [byte]
  separator := ""
  describeAll := Text.Utf8.text
  isNewline byte := byte == 10

end Descent
