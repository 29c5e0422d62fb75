import Syslog.Text.Blank
import Syslog.Text.Case

namespace Syslog

/-!
The twenty-four facilities of RFC 5424 and their names.
-/

inductive Facility
  | kern
  | user
  | mail
  | daemon
  | auth
  | syslog
  | lpr
  | news
  | uucp
  | cron
  | authpriv
  | ftp
  | ntp
  | audit
  | alert
  | clock
  | local0
  | local1
  | local2
  | local3
  | local4
  | local5
  | local6
  | local7
deriving DecidableEq

namespace Facility

def all : List Facility :=
  [.kern, .user, .mail, .daemon, .auth, .syslog, .lpr, .news, .uucp, .cron, .authpriv, .ftp,
    .ntp, .audit, .alert, .clock, .local0, .local1, .local2, .local3, .local4, .local5, .local6,
    .local7]

def code : Facility → Nat
  | .kern => 0
  | .user => 1
  | .mail => 2
  | .daemon => 3
  | .auth => 4
  | .syslog => 5
  | .lpr => 6
  | .news => 7
  | .uucp => 8
  | .cron => 9
  | .authpriv => 10
  | .ftp => 11
  | .ntp => 12
  | .audit => 13
  | .alert => 14
  | .clock => 15
  | .local0 => 16
  | .local1 => 17
  | .local2 => 18
  | .local3 => 19
  | .local4 => 20
  | .local5 => 21
  | .local6 => 22
  | .local7 => 23

def name : Facility → Text
  | .kern => "KERN"
  | .user => "USER"
  | .mail => "MAIL"
  | .daemon => "DAEMON"
  | .auth => "AUTH"
  | .syslog => "SYSLOG"
  | .lpr => "LPR"
  | .news => "NEWS"
  | .uucp => "UUCP"
  | .cron => "CRON"
  | .authpriv => "AUTHPRIV"
  | .ftp => "FTP"
  | .ntp => "NTP"
  | .audit => "AUDIT"
  | .alert => "ALERT"
  | .clock => "CLOCK"
  | .local0 => "LOCAL0"
  | .local1 => "LOCAL1"
  | .local2 => "LOCAL2"
  | .local3 => "LOCAL3"
  | .local4 => "LOCAL4"
  | .local5 => "LOCAL5"
  | .local6 => "LOCAL6"
  | .local7 => "LOCAL7"

def otherNames : List (Text × Facility) := [("security", .auth), ("cron2", .clock)]

/-- The keywords by which a facility can be looked up: its name, or another name of it. -/
def keywords : List (Text × Facility) :=
  all.map (fun facility => (facility.name.lower, facility)) ++ otherNames

/-- Looks a keyword up without regard to case and to blanks around it. -/
def ofKeyword? (keyword : Text) : Option Facility :=
  keywords.lookup keyword.trimmed.lower

end Facility

end Syslog
