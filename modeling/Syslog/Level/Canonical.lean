import Syslog.Level.Severity
import Syslog.Value.Words

namespace Syslog

/-!
Level names of log entries.

Levels are named in any case and under several names.  Every level has one canonical name in
upper case; six of these stand for a severity, and all others count as informational.
-/

namespace Level

/-- The names with a canonical form that is more than their upper case, and a few that are not. -/
def aliases : List (Text × Text) :=
  [("debug", "DEBUG"), ("info", "INFO"), ("notice", "NOTICE"), ("warning", "WARN"),
    ("warn", "WARN"), ("error", "ERROR"), ("critical", "CRITICAL"), ("fatal", "CRITICAL"),
    ("exception", "ERROR")]

def canonical (name : Text) : Text :=
  (aliases.lookup name.lower).getD name.lower.upper

/-- The canonical name that a value stands for by its displayed form. -/
def ofValue (level : Value) : Except WordsFault Text :=
  (level.inWords Value.shown).map canonical

/-- The canonical names that stand for a severity. -/
def severities : List (Text × Severity) :=
  [("DEBUG", .debug), ("INFO", .info), ("NOTICE", .notice), ("WARN", .warning),
    ("ERROR", .error), ("CRITICAL", .critical)]

end Level

namespace Severity

/-- The severity of a canonical name. -/
def ofCanonical (name : Text) : Severity := (Level.severities.lookup name).getD .info

/-- The severity of a level of any kind and form. -/
def ofLevel (level : Value) : Except WordsFault Severity :=
  (Level.ofValue level).map ofCanonical

end Severity

end Syslog
