import SyslogRelay.Config.Basic
import SyslogRelay.FileTree
import SyslogRelay.Json.Reader

namespace SyslogRelay

/-- What reading a file by its path gives, and which paths name the standard
input, which reading takes whole. -/
structure Files where
  read : String → Except IoError String
  isInput : String → Bool

/-- No readable files at all. -/
def Files.none : Files := ⟨fun _ => .error (.os 2), fun _ => false⟩

/-- A standard root file system holding the given files (absolute paths), read
from the working directory `/root`, with `input` as the standard input. -/
def Files.standard (contents : List (String × String)) (input : String) : Files :=
  let tree := contents.foldl (fun t (p, text) => t.withFile p text) FileTree.standard
  ⟨tree.read ["root"] input, tree.isInput ["root"]⟩

namespace Config

/-- Settings from JSON text over the defaults, then validated. -/
def parse (hostname : Option String) (text : String) : Except ConfigError Config := do
  let c ← (record.parse (defaults hostname) text).mapError .json
  c.validate
  pure c

/-- Settings from a JSON file. -/
def load (files : Files) (hostname : Option String) (path : String) : Except ConfigError Config := do
  let text ← (files.read path).mapError .io
  parse hostname text

/-- Variable names of the settings that the environment can give. -/
def envHost : String := "LOGFWD_HOST"
def envPort : String := "LOGFWD_PORT"
def envApp : String := "LOGFWD_APP"
def envHostname : String := "LOGFWD_HOSTNAME"
def envRaw : String := "LOGFWD_RAW"
def envMirror : String := "LOGFWD_MIRROR"
def envBuffer : String := "LOGFWD_BUFFER"

/-- A decimal count: an optional `+` and at least one ASCII digit, no larger
than `max`. -/
def countOf? (s : String) (max : Nat) : Option Nat :=
  let digits := match s.toList with
    | '+' :: rest => rest
    | cs => cs
  if digits.isEmpty || !digits.all Char.isDigit then Option.none
  else
    let n := digits.foldl (fun acc c => acc * 10 + (c.toNat - 48)) 0
    if n ≤ max then some n else Option.none

/-- A count from a variable, trimmed of blanks. -/
def envCount (key value : String) (max : Nat) : Except ConfigError Nat :=
  match countOf? (Text.trimBlank value) max with
  | some n => .ok n
  | Option.none => .error (.invalid (key ++ ": cannot parse '" ++ value ++ "'"))

/-- A boolean from a variable: trimmed and compared without ASCII case;
`1 true yes on` are true, `0 false no off` and the empty value false. -/
def envFlag (key value : String) : Except ConfigError Bool :=
  let v := (Text.trimBlank value).toList.map Char.toLower
  if v ∈ ["1".toList, "true".toList, "yes".toList, "on".toList] then .ok true
  else if v ∈ ["0".toList, "false".toList, "no".toList, "off".toList, []] then .ok false
  else .error (.invalid (key ++ ": expected a boolean, got '" ++ value ++ "'"))

/-- A text from a variable, where the empty value means none. -/
def envText (value : String) : Option String :=
  if value.isEmpty then Option.none else some value

/-- Apply the `LOGFWD_*` variables that `lookup` finds, then validate. -/
def applyEnv (c : Config) (lookup : String → Option String) : Except ConfigError Config := do
  let c := match lookup envHost with
    | some v => { c with host := v }
    | Option.none => c
  let c ← match lookup envPort with
    | some v => do pure { c with port := ← envCount envPort v 65535 }
    | Option.none => pure c
  let c := match lookup envApp with
    | some v => { c with appName := envText v }
    | Option.none => c
  let c := match lookup envHostname with
    | some v => { c with hostname := envText v }
    | Option.none => c
  let c ← match lookup envRaw with
    | some v => do pure { c with raw := ← envFlag envRaw v }
    | Option.none => pure c
  let c ← match lookup envMirror with
    | some v => do pure { c with mirror := ← envFlag envMirror v }
    | Option.none => pure c
  let c ← match lookup envBuffer with
    | some v => do pure { c with bufferCapacity := ← envCount envBuffer v wordMax }
    | Option.none => pure c
  c.validate
  pure c

end Config

/-- One setting made by hand. Durations are given in microseconds and kept in
whole milliseconds, rounded down. -/
inductive Setting
  | collector (host : String) (port : Nat)
  | appName (name : String)
  | hostname (name : String)
  | raw (on : Bool)
  | mirror (on : Bool)
  | facility (f : Facility)
  | bufferCapacity (entries : Nat)
  | conflictingTasks (tasks : List String)
  | sendTimeout (micros : Nat)
  | retryInterval (micros : Nat)
  | mdnsTimeout (micros : Nat)
  | shutdownGrace (micros : Nat)
  | bootMark (policy : BootMarkPolicy)
  deriving DecidableEq, Repr

namespace Setting

def apply (c : Config) : Setting → Config
  | collector host port => { c with host := host, port := port }
  | appName name => { c with appName := some name }
  | hostname name => { c with hostname := some name }
  | raw on => { c with raw := on }
  | mirror on => { c with mirror := on }
  | facility f => { c with facility := f }
  | bufferCapacity n => { c with bufferCapacity := n }
  | conflictingTasks ts => { c with conflictingTasks := ts }
  | sendTimeout us => { c with sendTimeoutMs := us / 1000 }
  | retryInterval us => { c with retryIntervalMs := us / 1000 }
  | mdnsTimeout us => { c with mdnsTimeoutMs := us / 1000 }
  | shutdownGrace us => { c with shutdownGraceMs := us / 1000 }
  | bootMark p => { c with bootMark := p }

end Setting

/-- Settings made one by one over the defaults, then validated. -/
def Config.build (hostname : Option String) (settings : List Setting) : Except ConfigError Config := do
  let c := settings.foldl Setting.apply (Config.defaults hostname)
  c.validate
  pure c

end SyslogRelay
