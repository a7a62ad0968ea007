/-!
# Priorities

A message opens with a priority, eight times the code of its facility plus the code of its severity.
There are 24 facilities and 8 severities, so the greatest priority is 191.
-/
namespace Syslog

inductive Facility where
  | kernel | user | mail | daemon | auth | syslog | lpr | news | uucp | cron | authPriv | ftp
  | ntp | audit | alert | clock
  | local0 | local1 | local2 | local3 | local4 | local5 | local6 | local7
  deriving DecidableEq, Repr

namespace Facility

/-- The facilities in the order of their codes. -/
def all : List Facility := [
  kernel, user, mail, daemon, auth, syslog, lpr, news, uucp, cron, authPriv, ftp, ntp, audit, alert,
  clock, local0, local1, local2, local3, local4, local5, local6, local7]

def ofCode? (code : Nat) : Option Facility := all[code]?

def code (facility : Facility) : Nat := all.idxOf facility

def name : Facility → String
  | kernel => "kernel"
  | user => "user"
  | mail => "mail"
  | daemon => "daemon"
  | auth => "auth"
  | syslog => "syslog"
  | lpr => "lpr"
  | news => "news"
  | uucp => "uucp"
  | cron => "cron"
  | authPriv => "auth_priv"
  | ftp => "ftp"
  | ntp => "ntp"
  | audit => "audit"
  | alert => "alert"
  | clock => "clock"
  | local0 => "local0"
  | local1 => "local1"
  | local2 => "local2"
  | local3 => "local3"
  | local4 => "local4"
  | local5 => "local5"
  | local6 => "local6"
  | local7 => "local7"

end Facility

inductive Severity where
  | emergency | alert | critical | error | warning | notice | informational | debug
  deriving DecidableEq, Repr

namespace Severity

/-- The severities in the order of their codes. -/
def all : List Severity := [
  emergency, alert, critical, error, warning, notice, informational, debug]

def ofCode? (code : Nat) : Option Severity := all[code]?

def code (severity : Severity) : Nat := all.idxOf severity

def name : Severity → String
  | emergency => "emergency"
  | alert => "alert"
  | critical => "critical"
  | error => "error"
  | warning => "warning"
  | notice => "notice"
  | informational => "informational"
  | debug => "debug"

end Severity

structure Priority where
  facility : Facility
  severity : Severity
  deriving DecidableEq, Repr

namespace Priority

def encode (priority : Priority) : Nat := 8 * priority.facility.code + priority.severity.code

/-- The priority with a code; codes above 191 have none. -/
def decode? (code : Nat) : Option Priority := do
  let facility ← Facility.ofCode? (code / 8)
  let severity ← Severity.ofCode? (code % 8)
  return ⟨facility, severity⟩

theorem decode?_encode (priority : Priority) : decode? priority.encode = some priority := by
  obtain ⟨facility, severity⟩ := priority
  cases facility <;> cases severity <;> rfl

end Priority
end Syslog
