import SyslogRelay.Severity
import SyslogRelay.Boot
import SyslogRelay.IoError
import SyslogRelay.Json.Schema
import SyslogRelay.Text.Blank

namespace SyslogRelay

/-- The syslog port. -/
def defaultPort : Nat := 514

/-- Forwarder settings. -/
structure Config where
  /-- Collector host name or address. -/
  host : String
  /-- Collector UDP port. -/
  port : Nat
  /-- APP-NAME of the records; `-` when absent. -/
  appName : Option String
  /-- HOSTNAME of the records; `-` when absent. -/
  hostname : Option String
  /-- Send console text unchanged instead of syslog records. -/
  raw : Bool
  /-- Keep writing to the local console while forwarding. -/
  mirror : Bool
  /-- Facility of the records' priority. -/
  facility : Facility
  /-- Backlog size in entries; 0 disables the backlog. -/
  bufferCapacity : Nat
  /-- Tasks whose records must only ever be deferred. -/
  conflictingTasks : List String
  sendTimeoutMs : Nat
  retryIntervalMs : Nat
  mdnsTimeoutMs : Nat
  shutdownGraceMs : Nat
  /-- When the boot is marked good. -/
  bootMark : BootMarkPolicy
  deriving DecidableEq, Repr

/-- Tasks that must never send synchronously unless told otherwise. -/
def defaultConflictingTasks : List String := ["tIT", "wifi"]

/-- The host name a process reports for itself: the first non-empty of the
variables `HOSTNAME` and `HOST`, else the kernel's name. -/
def defaultHostname (lookup : String → Option String) (kernel : Option String) : Option String :=
  match (["HOSTNAME", "HOST"].filterMap lookup).find? (fun v => !v.isEmpty) with
  | some v => some v
  | none => kernel

namespace Config

/-- Default settings, given the process's own host name. -/
def defaults (hostname : Option String) : Config where
  host := "localhost"
  port := defaultPort
  appName := none
  hostname := hostname
  raw := false
  mirror := false
  facility := .local0
  bufferCapacity := 64
  conflictingTasks := defaultConflictingTasks
  sendTimeoutMs := 1000
  retryIntervalMs := 100
  mdnsTimeoutMs := 2000
  shutdownGraceMs := 500
  bootMark := .firstTransmit

/-- Whether records of a task must only ever be deferred. -/
def isConflicting (c : Config) (task : Option String) : Bool :=
  match task with
  | some t => c.conflictingTasks.contains t
  | none => false

end Config

/-- Why settings could not be had. -/
inductive ConfigError
  /-- The settings file could not be read. -/
  | io (e : IoError)
  /-- The settings text is not JSON of the right shape. -/
  | json (e : Json.Error)
  /-- The settings are not usable. -/
  | invalid (reason : String)
  deriving DecidableEq, Repr

def ConfigError.message : ConfigError → String
  | .io e => "I/O error: " ++ e.message
  | .json e => "JSON parse error: " ++ e.message
  | .invalid reason => "Invalid configuration: " ++ reason

namespace Config

/-- Check that the collector host is not blank and the port is not 0. -/
def validate (c : Config) : Except ConfigError Unit :=
  if (Text.trimBlank c.host).isEmpty then .error (.invalid "Collector host is empty")
  else if c.port = 0 then .error (.invalid "Collector port must not be 0")
  else .ok ()

/-- Largest value of an unsigned 64-bit count. -/
def wordMax : Nat := Nat.pow 2 64 - 1

/-- The settings as a JSON record, in declaration order. -/
def record : Json.Record Config where
  title := "struct ForwarderConfig"
  fields := [
    ⟨"host", .text, fun v c => { c with host := v }⟩,
    ⟨"port", .natural 65535 "u16", fun v c => { c with port := v }⟩,
    ⟨"app_name", .optionalText, fun v c => { c with appName := v }⟩,
    ⟨"hostname", .optionalText, fun v c => { c with hostname := v }⟩,
    ⟨"raw", .flag, fun v c => { c with raw := v }⟩,
    ⟨"mirror", .flag, fun v c => { c with mirror := v }⟩,
    ⟨"facility", .choice (Facility.all.map fun f => (f.name, f)), fun v c => { c with facility := v }⟩,
    ⟨"buffer_capacity", .natural wordMax "usize", fun v c => { c with bufferCapacity := v }⟩,
    ⟨"conflicting_tasks", .texts, fun v c => { c with conflictingTasks := v }⟩,
    ⟨"send_timeout_ms", .natural wordMax "u64", fun v c => { c with sendTimeoutMs := v }⟩,
    ⟨"retry_interval_ms", .natural wordMax "u64", fun v c => { c with retryIntervalMs := v }⟩,
    ⟨"mdns_timeout_ms", .natural wordMax "u64", fun v c => { c with mdnsTimeoutMs := v }⟩,
    ⟨"shutdown_grace_ms", .natural wordMax "u64", fun v c => { c with shutdownGraceMs := v }⟩,
    ⟨"boot_mark", .choice (BootMarkPolicy.all.map fun p => (p.name, p)), fun v c => { c with bootMark := v }⟩]

/-- A facility written as a JSON value: its name, or an object with the name as
only key and `null`. -/
def facilityShape : Json.Shape Facility := .choice (Facility.all.map fun f => (f.name, f))

/-- A boot mark policy written as a JSON value. -/
def bootMarkShape : Json.Shape BootMarkPolicy := .choice (BootMarkPolicy.all.map fun p => (p.name, p))

/-- Settings from a parsed JSON value, over the defaults; not validated. -/
def ofValue (hostname : Option String) (v : Json.Value) : Except Json.Error Config :=
  record.ofValue (defaults hostname) v

end Config

end SyslogRelay
