import Syslog.Fault

namespace Syslog

/-!
Values as the text of a parameter.

Texts stand for themselves, octets for the text that they encode, numbers for their displayed
form; all else is written as JSON.  Octets that are not UTF-8 turn into surrogates, so that
the text is refused when the message is checked and no octet is lost in silence.
-/

def Value.parameterText : Value → Except Fault Text
  | .null => .ok []
  | .text content => .ok content
  | .octets .fixed content => .ok (Utf8.decodeEscaping content)
  | .octets .growable content => .ok (Utf8.decodeEscaping content)
  | .bool true => .ok "true"
  | .bool false => .ok "false"
  | .int number => (inWords shown (.int number)).mapError .words
  | .float number => .ok number.shown
  | value => value.json.mapError .json

end Syslog
