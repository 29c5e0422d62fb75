import Syslog.Text.Utf8
import Syslog.Text.Printable

namespace Syslog

/-!
Quoted texts and octets, as they are shown in error messages and inside of containers.

The quote is the apostrophe unless the content has apostrophes and no double quotes.  Inside,
the quote in use and the backslash are escaped by a backslash, tabulators and line ends by
their letters, and whatever is not printable by its number in the shortest of the forms
`\x`, `\u` and `\U` that holds it.
-/

/-- The quote for a content with the given marks in it. -/
def quoteFor (hasApostrophe hasDouble : Bool) : CodePoint :=
  if hasApostrophe && !hasDouble then '"' else '\''

namespace CodePoint

/-- The escapes that quoted texts and quoted octets share; `mark` is the quote they escape. -/
def commonEscape? (mark c : CodePoint) : Option Text :=
  if c = mark || c = '\\' then some ['\\', c]
  else if c = '\t' then some "\\t"
  else if c = '\n' then some "\\n"
  else if c = '\r' then some "\\r"
  else none

/-- The code point by number. -/
def numericEscape (c : CodePoint) : Text :=
  if c.val ≤ 0xFF then Text.ofString "\\x" ++ Text.hex 2 c.val
  else if c.val ≤ 0xFFFF then Text.ofString "\\u" ++ Text.hex 4 c.val
  else Text.ofString "\\U" ++ Text.hex 8 c.val

def quoted (mark c : CodePoint) : Text :=
  (commonEscape? mark c).getD (if c.isPrintable then [c] else c.numericEscape)

/-- A code point of a quoted text that is to be ASCII throughout. -/
def quotedAscii (mark c : CodePoint) : Text :=
  (commonEscape? mark c).getD
    (if c.isPrintable && c.val < 0x80 then [c] else c.numericEscape)

end CodePoint

namespace Text

/-- The quote that a quoted text stands in. -/
def quote (text : Text) : CodePoint :=
  quoteFor (text.contains (.ofChar '\'')) (text.contains (.ofChar '"'))

def quoted (text : Text) : Text :=
  text.quote :: text.flatMap (CodePoint.quoted text.quote) ++ [text.quote]

/-- Puts numeric escapes for all that is not ASCII. -/
def asciiEscaped (text : Text) : Text :=
  text.flatMap fun c => if c.val < 0x80 then [c] else c.numericEscape

end Text

namespace Bytes

/-- Each octet as the code point of the same number. -/
def characters (octets : Bytes) : Text := octets.map fun octet => .ofNat octet.toNat

/-- Octets between quotes behind a `b`; those outside of printable ASCII are escaped. -/
def between (quote mark : CodePoint) (octets : Bytes) : Text :=
  CodePoint.ofChar 'b' :: quote ::
    octets.characters.flatMap (CodePoint.quotedAscii mark) ++ [quote]

def quoted (octets : Bytes) : Text :=
  let quote := octets.characters.quote
  octets.between quote quote

/-- Octets that may grow have their apostrophes escaped in either kind of quotes. -/
def quotedGrowable (octets : Bytes) : Text :=
  octets.between octets.characters.quote '\''

end Bytes

end Syslog
