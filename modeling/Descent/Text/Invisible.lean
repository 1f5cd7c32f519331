import Descent.Text.Mark
import Descent.Text.Unassigned

/-!
# Invisible characters

A character is invisible if nothing of it would be seen on its own: it is blank,
other than the plain space, or steers the layout, or has no agreed shape, or melts
into the character before it.
-/

namespace Descent.Text

/-- The code points of control and format characters, of separators other than the
plain space, of letters that are blank by definition, and for private use. The table
is that of Unicode 17.0. -/
def blankRanges : Ranges :=
  [(0x0, 0x1F), (0x7F, 0xA0), (0xAD, 0xAD), (0x600, 0x605), (0x61C, 0x61C), (0x6DD, 0x6DD),
   (0x70F, 0x70F), (0x890, 0x891), (0x8E2, 0x8E2), (0x115F, 0x1160), (0x1680, 0x1680),
   (0x180E, 0x180E), (0x2000, 0x200F), (0x2028, 0x202F), (0x205F, 0x2064), (0x2066, 0x206F),
   (0x3000, 0x3000), (0x3164, 0x3164), (0xE000, 0xF8FF), (0xFEFF, 0xFEFF), (0xFFA0, 0xFFA0),
   (0xFFF9, 0xFFFB), (0x110BD, 0x110BD), (0x110CD, 0x110CD), (0x13430, 0x1343F),
   (0x1BCA0, 0x1BCA3), (0x1D173, 0x1D17A), (0xE0001, 0xE0001), (0xE0020, 0xE007F),
   (0xF0000, 0xFFFFD), (0x100000, 0x10FFFD)]

/-- Whether nothing of a character would be seen on its own. -/
def isInvisible (c : Char) : Bool :=
  blankRanges.contains c.toNat || markRanges.contains c.toNat ||
    unassignedRanges.contains c.toNat

end Descent.Text
