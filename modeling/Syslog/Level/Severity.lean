import Syslog.Text.Blank
import Syslog.Text.Case

namespace Syslog

/-!
The eight severities of RFC 5424, from the worst to the mildest, and their names.
-/

inductive Severity
  | emergency
  | alert
  | critical
  | error
  | warning
  | notice
  | info
  | debug
deriving DecidableEq

namespace Severity

def code : Severity → Nat
  | .emergency => 0
  | .alert => 1
  | .critical => 2
  | .error => 3
  | .warning => 4
  | .notice => 5
  | .info => 6
  | .debug => 7

def name : Severity → Text
  | .emergency => "EMERGENCY"
  | .alert => "ALERT"
  | .critical => "CRITICAL"
  | .error => "ERROR"
  | .warning => "WARNING"
  | .notice => "NOTICE"
  | .info => "INFO"
  | .debug => "DEBUG"

def all : List Severity :=
  [.emergency, .alert, .critical, .error, .warning, .notice, .info, .debug]

def shortForms : List (Text × Severity) :=
  [("emerg", .emergency), ("crit", .critical), ("err", .error), ("warn", .warning)]

/-- The keywords by which a severity can be looked up: its name, or a short form of it. -/
def keywords : List (Text × Severity) :=
  all.map (fun severity => (severity.name.lower, severity)) ++ shortForms

/-- Looks a keyword up without regard to case and to blanks around it. -/
def ofKeyword? (keyword : Text) : Option Severity :=
  keywords.lookup keyword.trimmed.lower

end Severity

end Syslog
