import Syslog.Text.Blank
import Syslog.Text.Case

namespace Syslog

/-!
Settings that every encoder of a process shares, and how they are changed.
-/

/-- RFC 5424 caps names in structured data at 32 characters; the cap can be lifted. -/
structure Settings where
  allowLongNames : Bool := false
deriving DecidableEq

/-- The variables of a process; of two with one name the later counts. -/
abbrev Environment := List (Text × Text)

def Environment.get? (environment : Environment) (name : Text) : Option Text :=
  environment.reverse.lookup name

namespace Settings

/-- Nothing given leaves the settings as they are. -/
def configure (settings : Settings) : (allowLongNames : Option Bool) → Settings
  | some allowLongNames => { settings with allowLongNames }
  | none => settings

/-- The words that switch a setting on. -/
def affirmative : List Text := ["1", "true", "yes", "on"]

/-- The settings that the variables of a process ask for. -/
def ofEnvironment (environment : Environment) : Settings where
  allowLongNames :=
    affirmative.contains
      ((environment.get? "SYSLOG_ALLOW_LONG_SD_NAMES").getD []).trimmed.lower

/-- What a call goes by: its own choice if it makes one, else the settings. -/
def longNames (settings : Settings) (choice : Option Bool) : Bool :=
  choice.getD settings.allowLongNames

end Settings

end Syslog
