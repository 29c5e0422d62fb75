import Syslog.Text.Case

namespace Syslog

/-!
Numbered levels, by which entries are filtered.

A level set by name is matched in upper case, and a name that is not known stands for the level
of information.  Two reserved names stand for something that is not a level at all.
-/

namespace Level

def debug : Nat := 10
def info : Nat := 20
def warning : Nat := 30
def error : Nat := 40
def critical : Nat := 50

/-- The numbers of the names of levels. -/
def numbers : List (Text × Nat) :=
  [("NOTSET", 0), ("DEBUG", debug), ("INFO", info), ("WARNING", warning), ("WARN", warning),
    ("ERROR", error), ("CRITICAL", critical), ("FATAL", critical)]

/-- What the name of a level stands for. -/
inductive Meaning
  | number (level : Nat)
  /-- The template of plain lines. -/
  | template (text : Text)
  /-- The table of template styles. -/
  | styles
deriving DecidableEq

def plainTemplate : Text := "%(levelname)s:%(name)s:%(message)s"

def ofName (name : Text) : Meaning :=
  let name := name.upper
  if name = Text.ofString "BASIC_FORMAT" then .template plainTemplate
  else if name = Text.ofString "_STYLES" then .styles
  else .number ((numbers.lookup name).getD info)

/-- The names of the levels that have one, as plain entries are marked with them. -/
def plainNames : List (Nat × Text) :=
  [(debug, "debug"), (info, "info"), (warning, "warning"), (error, "error"),
    (critical, "critical")]

/-- The mark of a plain entry; a level without a name is marked by its number. -/
def plainName (level : Nat) : Text :=
  (plainNames.lookup level).getD (Text.ofString "level " ++ Text.ofNat level)

end Level

/-- The methods by which entries are logged. -/
inductive Method
  | debug
  | info
  | warning
  | error
  /-- An error that by default comes with the failure being handled. -/
  | exception
  | critical
deriving DecidableEq

namespace Method

def names : List (Text × Method) :=
  [("debug", .debug), ("info", .info), ("warning", .warning), ("warn", .warning),
    ("error", .error), ("exception", .exception), ("critical", .critical), ("fatal", .critical)]

def ofName? (name : Text) : Option Method := names.lookup name

def level : Method → Nat
  | .debug => Level.debug
  | .info => Level.info
  | .warning => Level.warning
  | .error => Level.error
  | .exception => Level.error
  | .critical => Level.critical

/-- The level as it is entered into an event. -/
def levelName (method : Method) : Text := Level.plainName method.level

end Method

end Syslog
