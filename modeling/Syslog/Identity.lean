import Syslog.Text.Basic

namespace Syslog

/-!
What a process is called, and the element that takes what has no element of its own.
-/

/-- The names of a process, which stand for the ones that a message does not give. -/
structure Identity where
  hostname : Text
  appName : Text
  processId : Text
deriving DecidableEq

/-- The identifier of the element for parameters that name no other. -/
def defaultElementId : Text := "0@local"

end Syslog
