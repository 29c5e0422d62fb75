import Syslog.Identity
import Syslog.Level.Severity
import Syslog.Level.Facility

namespace Syslog

/-!
Record types, and where the parts of a message live on them.

A record type declares fields, each with an optional tag.  Its field map names the field that
supplies each role of a message, the defaults for roles without a value, and the fields that
are written as parameters, in the order of their declaration.
-/

/-- A field as the classification sees it. -/
structure FieldSpec where
  name : Text
  tag : Text := []
  isPublic : Bool := true
deriving DecidableEq

/-- A field that is written as a parameter. -/
structure ParameterField where
  field : Text
  elementId : Text
  name : Text
  omitEmpty : Bool := false
deriving DecidableEq

structure FieldMap where
  recordType : Text
  severityField : Option Text := none
  severityDefault : Severity := .info
  facilityField : Option Text := none
  facilityDefault : Facility := .local0
  timestampField : Option Text := none
  hostnameField : Option Text := none
  appNameField : Option Text := none
  appNameDefault : Text
  processIdField : Option Text := none
  messageIdField : Option Text := none
  messageIdDefault : Text
  bodyField : Option Text := none
  elementIdDefault : Text := []
  parameterFields : List ParameterField := []
deriving DecidableEq

namespace FieldMap

/-- The map of a type without fields. -/
def empty (identity : Identity) (recordType : Text) : FieldMap where
  recordType
  appNameDefault := identity.appName
  messageIdDefault := recordType

/-- The first field that is written as the given parameter of the given element. -/
def parameterField? (map : FieldMap) (elementId name : Text) : Option ParameterField :=
  map.parameterFields.find? fun field => field.elementId == elementId && field.name == name

end FieldMap

end Syslog
