import Syslog.Message.Grammar
import Syslog.Value.Same

namespace Syslog

/-!
Messages as callers put them together.

Any part may hold any value; whether the parts make up a message of RFC 5424 is decided when
it is checked (`Syslog.Message.Check`).
-/

/-- One `name="value"` pair; the value is not escaped yet. -/
structure Parameter where
  name : Value
  value : Value

/-- One `[id name="value" ...]` block, with its parameters in order. -/
structure Element where
  id : Value
  parameters : List Parameter

structure Message where
  timestamp : Value
  severity : Value := .int 6
  facility : Value := .int 16
  hostname : Value := .text []
  appName : Value := .text []
  processId : Value := .text []
  messageId : Value := .text []
  structuredData : List Element := []
  body : Value := .octets .fixed []

/-- An operator that was given operands it is not meant for. -/
structure OperandFault where
  operator : Text
  left : Value
  right : Value

/-- Disjunction of integers bit by bit, where negative ones have infinitely many bits set. -/
def bitOr : Int → Int → Int
  | .ofNat left, .ofNat right => .ofNat (left ||| right)
  | .ofNat left, .negSucc right => .negSucc (right - (right &&& left))
  | .negSucc left, .ofNat right => .negSucc (left - (left &&& right))
  | .negSucc left, .negSucc right => .negSucc (left &&& right)

namespace Parameter

def same (left right : Parameter) : Bool :=
  left.name.same right.name && left.value.same right.value

end Parameter

/-- Whether two lists agree place by place. -/
def sameLists (same : α → α → Bool) : List α → List α → Bool
  | [], [] => true
  | left :: lefts, right :: rights => same left right && sameLists same lefts rights
  | _, _ => false

namespace Element

def same (left right : Element) : Bool :=
  left.id.same right.id && sameLists Parameter.same left.parameters right.parameters

end Element

namespace Message

/-- The priority value: the severity, together with the facility moved up by three bits. -/
def priority (message : Message) : Except OperandFault Int :=
  match message.facility.integral?, message.severity.integral? with
  | none, _ => .error ⟨"<<", message.facility, .int 3⟩
  | some facility, none => .error ⟨"|", message.severity, .int (facility * 8)⟩
  | some facility, some severity => .ok (bitOr severity (facility * 8))

def same (left right : Message) : Bool :=
  left.timestamp.same right.timestamp &&
  left.severity.same right.severity &&
  left.facility.same right.facility &&
  left.hostname.same right.hostname &&
  left.appName.same right.appName &&
  left.processId.same right.processId &&
  left.messageId.same right.messageId &&
  sameLists Element.same left.structuredData right.structuredData &&
  left.body.same right.body

end Message

end Syslog
