import Syslog.Text.Basic

namespace Syslog

/-!
White space, and the trimming of it.

A code point is blank when Unicode gives it the property White_Space or the bidirectional
class of a separator; the latter adds the four information separators U+001C to U+001F.
-/

/-- The blank code points, as closed ranges in ascending order. -/
def blankRanges : List (Nat × Nat) :=
  [(0x9, 0xD), (0x1C, 0x20), (0x85, 0x85), (0xA0, 0xA0), (0x1680, 0x1680), (0x2000, 0x200A),
    (0x2028, 0x2029), (0x202F, 0x202F), (0x205F, 0x205F), (0x3000, 0x3000)]

def CodePoint.isBlank (c : CodePoint) : Bool := c.isIn blankRanges

/-- The text without blanks at either end. -/
def Text.trimmed (text : Text) : Text :=
  Text.dropEndWhile CodePoint.isBlank (text.dropWhile CodePoint.isBlank)

end Syslog
