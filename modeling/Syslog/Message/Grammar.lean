import Syslog.Text.Basic

namespace Syslog

/-!
The character classes of RFC 5424, and the escaping of parameter values.

A header field holds printable US-ASCII characters without blanks; a name in structured data
holds some of these, and is not empty.  In a parameter value the quote that would end it, the
bracket that would end the element, and the backslash itself are escaped.
-/

namespace CodePoint

/-- A printable US-ASCII character other than the space. -/
def isPrintUsAscii (c : CodePoint) : Bool := 33 ≤ c.val && c.val ≤ 126

/-- A character that a name in structured data may hold. -/
def isNameChar (c : CodePoint) : Bool :=
  c.isPrintUsAscii && c != .ofChar '=' && c != .ofChar ']' && c != .ofChar '"'

/-- A character that is escaped in a parameter value. -/
def isEscaped (c : CodePoint) : Bool :=
  c == .ofChar '\\' || c == .ofChar '"' || c == .ofChar ']'

end CodePoint

/-- The greatest length of a name in structured data, unless the cap is lifted. -/
def nameLimit : Nat := 32

namespace Text

def isPrintUsAscii (text : Text) : Bool := text.all CodePoint.isPrintUsAscii

def isName (allowLong : Bool) (text : Text) : Bool :=
  (allowLong || text.length ≤ nameLimit) && !text.isEmpty && text.all CodePoint.isNameChar

/-- A parameter value as it stands between its quotes. -/
def escaped (text : Text) : Text :=
  text.flatMap fun c => if c.isEscaped then [.ofChar '\\', c] else [c]

end Text

end Syslog
