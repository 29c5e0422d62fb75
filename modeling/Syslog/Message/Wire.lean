import Syslog.Message.Grammar
import Syslog.Time.Rfc3339
import Syslog.Text.Utf8

namespace Syslog

/-!
Messages of RFC 5424, and their octets.

The parts carry the proof that they keep to the grammar, so that encoding cannot fail: each
header field is a token of bounded length, each name is a name, each parameter value has a
UTF-8 form.  The cap on names is not part of the type, since it can be lifted.
-/

/-- A time, with the part of its second in nanoseconds. -/
structure Timestamp where
  dateTime : DateTime
  nanoseconds : Nat
  nanoseconds_lt : nanoseconds < 1000000000
deriving DecidableEq

/-- A header field of at most `limit` characters, which may be empty. -/
structure Token (limit : Nat) where
  text : Text
  printable : text.isPrintUsAscii = true
  length_le : text.length ≤ limit
deriving DecidableEq

/-- A name in structured data, of any length. -/
structure Name where
  text : Text
  valid : text.isName true = true
deriving DecidableEq

/-- A text that has a UTF-8 form. -/
structure EncodableText where
  text : Text
  encodable : text.isEncodable = true
deriving DecidableEq

structure WireParameter where
  name : Name
  value : EncodableText
deriving DecidableEq

structure WireElement where
  id : Name
  parameters : List WireParameter
deriving DecidableEq

/-- The greatest lengths of the four header fields. -/
def hostnameLimit : Nat := 255
@[inherit_doc hostnameLimit]
def appNameLimit : Nat := 48
@[inherit_doc hostnameLimit]
def processIdLimit : Nat := 128
@[inherit_doc hostnameLimit]
def messageIdLimit : Nat := 32

/-- A message that can be written; the greatest severity is one beyond those with a name. -/
structure WireMessage where
  timestamp : Timestamp
  severity : Nat
  facility : Nat
  hostname : Token hostnameLimit
  appName : Token appNameLimit
  processId : Token processIdLimit
  messageId : Token messageIdLimit
  structuredData : List WireElement
  body : Bytes
  severity_le : severity ≤ 8
  facility_le : facility ≤ 23
deriving DecidableEq

def Timestamp.written (timestamp : Timestamp) : Text :=
  Rfc3339.written timestamp.dateTime timestamp.nanoseconds

/-- What stands for a part that is absent. -/
def nilValue : Text := "-"

def Text.orNil (text : Text) : Text := if text.isEmpty then nilValue else text

namespace WireParameter

def written (parameter : WireParameter) : Text :=
  CodePoint.ofChar ' ' :: parameter.name.text ++ Text.ofString "=\"" ++
    parameter.value.text.escaped ++ [CodePoint.ofChar '"']

end WireParameter

namespace WireElement

def written (element : WireElement) : Text :=
  CodePoint.ofChar '[' :: element.id.text ++ element.parameters.flatMap WireParameter.written ++
    [CodePoint.ofChar ']']

end WireElement

namespace WireMessage

def priority (message : WireMessage) : Nat := message.severity ||| message.facility * 8

/-- The structured data, written without anything between the elements. -/
def writtenData (message : WireMessage) : Text :=
  if message.structuredData.isEmpty then nilValue
  else message.structuredData.flatMap WireElement.written

/-- All that stands before the body and the space in front of it. -/
def head (message : WireMessage) : Text :=
  Text.joined " " [
    CodePoint.ofChar '<' :: Text.ofNat message.priority ++ Text.ofString ">1",
    message.timestamp.written,
    message.hostname.text.orNil,
    message.appName.text.orNil,
    message.processId.text.orNil,
    message.messageId.text.orNil,
    message.writtenData]

/-- A body that is empty is left out together with its space. -/
def encode (message : WireMessage) : Bytes :=
  message.head.utf8 ++
    if message.body.isEmpty then [] else UInt8.ofNat ' '.toNat :: message.body

end WireMessage

end Syslog
