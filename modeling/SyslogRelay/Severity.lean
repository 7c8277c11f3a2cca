namespace SyslogRelay

/-- The eight syslog severities, most urgent first. -/
inductive Severity
  | emergency
  | alert
  | critical
  | error
  | warning
  | notice
  | informational
  | debug
  deriving DecidableEq, Repr, Inhabited

namespace Severity

/-- Numeric code, 0 for emergency up to 7 for debug. -/
def code : Severity → Nat
  | emergency => 0
  | alert => 1
  | critical => 2
  | error => 3
  | warning => 4
  | notice => 5
  | informational => 6
  | debug => 7

/-- Short upper-case name used in displays. -/
def label : Severity → String
  | emergency => "EMERG"
  | alert => "ALERT"
  | critical => "CRIT"
  | error => "ERROR"
  | warning => "WARN"
  | notice => "NOTICE"
  | informational => "INFO"
  | debug => "DEBUG"

/-- Full name of the severity, as a type's variant is spelled. -/
def fullName : Severity → String
  | emergency => "Emergency"
  | alert => "Alert"
  | critical => "Critical"
  | error => "Error"
  | warning => "Warning"
  | notice => "Notice"
  | informational => "Informational"
  | debug => "Debug"

def all : List Severity :=
  [emergency, alert, critical, error, warning, notice, informational, debug]

/-- The severity with a given code. -/
def ofCode? (n : Nat) : Option Severity :=
  all.find? (fun s => s.code = n)

/-- Console marker letters: `E W I D V`; both `D` and `V` (verbose) mean debug. -/
def ofMarker? (b : Nat) : Option Severity :=
  if b = 'E'.toNat then some error
  else if b = 'W'.toNat then some warning
  else if b = 'I'.toNat then some informational
  else if b = 'D'.toNat ∨ b = 'V'.toNat then some debug
  else none

/-- Level of a console line: its first three bytes must be a marker, a space and
an opening parenthesis; any other line is a notice. -/
def ofLine (line : String) : Severity :=
  match line.toList with
  | m :: ' ' :: '(' :: _ => (ofMarker? m.toNat).getD notice
  | _ => notice

theorem code_lt (s : Severity) : s.code < 8 := by
  cases s <;> decide

theorem ofCode?_code (s : Severity) : ofCode? s.code = some s := by
  cases s <;> rfl

end Severity

/-- Syslog facilities that the forwarder can stamp on its records. -/
inductive Facility
  | kern
  | user
  | mail
  | daemon
  | auth
  | syslog
  | lpr
  | news
  | uucp
  | cron
  | local0
  | local1
  | local2
  | local3
  | local4
  | local5
  | local6
  | local7
  deriving DecidableEq, Repr, Inhabited

namespace Facility

/-- Numeric facility code of RFC 5424. -/
def code : Facility → Nat
  | kern => 0
  | user => 1
  | mail => 2
  | daemon => 3
  | auth => 4
  | syslog => 5
  | lpr => 6
  | news => 7
  | uucp => 8
  | cron => 9
  | local0 => 16
  | local1 => 17
  | local2 => 18
  | local3 => 19
  | local4 => 20
  | local5 => 21
  | local6 => 22
  | local7 => 23

/-- Lower-case name of the facility in configuration files. -/
def name : Facility → String
  | kern => "kern"
  | user => "user"
  | mail => "mail"
  | daemon => "daemon"
  | auth => "auth"
  | syslog => "syslog"
  | lpr => "lpr"
  | news => "news"
  | uucp => "uucp"
  | cron => "cron"
  | local0 => "local0"
  | local1 => "local1"
  | local2 => "local2"
  | local3 => "local3"
  | local4 => "local4"
  | local5 => "local5"
  | local6 => "local6"
  | local7 => "local7"

/-- Every facility, in the order of their codes. -/
def all : List Facility :=
  [kern, user, mail, daemon, auth, syslog, lpr, news, uucp, cron,
   local0, local1, local2, local3, local4, local5, local6, local7]

/-- The facility with a given configuration name; names are case-sensitive. -/
def ofName? (s : String) : Option Facility :=
  all.find? (fun f => f.name = s)

/-- Priority value of a record: facility code times eight plus severity code. -/
def priority (f : Facility) (s : Severity) : Nat :=
  f.code * 8 + s.code

theorem ofName?_name (f : Facility) : ofName? f.name = some f := by
  cases f <;> rfl

theorem priority_lt (f : Facility) (s : Severity) : f.priority s < 192 := by
  have := s.code_lt
  cases f <;> simp [priority, code] <;> omega

end Facility

end SyslogRelay
