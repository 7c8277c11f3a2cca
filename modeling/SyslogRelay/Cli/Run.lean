import SyslogRelay.Cli.Arguments
import SyslogRelay.Cli.Report
import SyslogRelay.Config.Load
import SyslogRelay.Relay.World

/-!
One run of the command line, as a function of what the program is given.
-/

namespace SyslogRelay.Cli

open SyslogRelay.Relay
open SyslogRelay.Diagnostic

/-- Everything a run is given before its input. -/
structure Setup where
  args : List String
  /-- The environment variables, first match wins. -/
  env : List (String × String)
  files : Files
  machine : Net.Machine
  /-- The time written in diagnostic lines. -/
  stamp : String
  /-- Ports on which a collector listens. -/
  listening : List Nat

/-- What a run leaves behind. -/
structure Outcome where
  code : Nat
  stdout : String
  stderr : String
  /-- Datagrams that reached a listening collector, in order. -/
  delivered : List String
  deriving DecidableEq, Repr

/-- The lines of a text, each with its line feed; a last line without one is kept. -/
def inputLines (s : String) : List String :=
  let parts := s.splitOn "\n"
  match parts.reverse with
  | [] => []
  | last :: earlier =>
    (earlier.reverse.map (· ++ "\n")) ++ (if last.isEmpty then [] else [last])

def Setup.lookup (setup : Setup) (name : String) : Option String :=
  (setup.env.find? (·.1 = name)).map Prod.snd

/-- The settings a run uses, or the report of why there are none. -/
def settings (setup : Setup) (o : Options) : Except Report Config := do
  let hostname := defaultHostname setup.lookup setup.machine.name
  let base ← match o.config with
    | some path =>
      (Config.load setup.files hostname path).mapError fun e => ⟨"Failed to load config from " ++ path, configCauses e⟩
    | none =>
      ((Config.defaults hostname).applyEnv setup.lookup).mapError fun e => ⟨"Invalid LOGFWD_* environment", configCauses e⟩
  let c := { base with
    host := o.host.getD base.host
    port := o.port.getD base.port
    appName := if o.app.isSome then o.app else base.appName
    hostname := if o.hostname.isSome then o.hostname else base.hostname
    facility := o.facility.getD base.facility
    raw := base.raw || o.raw
    mirror := base.mirror || o.mirror }
  c.validate.mapError fun e => ⟨"Invalid configuration", configCauses e⟩
  pure c

/-- The console text of a world. -/
def consoleText (w : World) : String := String.join (w.console.map (·.text))

/-- What reached the listeners of a world. -/
def delivered (w : World) : List String := (w.wires.map Wire.payloads).flatten

/-- A run that is forwarding its input: the world and its forwarder. -/
structure Session where
  env : Surroundings
  world : World
  fwd : Nat

/-- How the start of a run ended. -/
inductive Start
  /-- The run is over before reading its input. -/
  | finished (o : Outcome)
  | forwarding (s : Session)

namespace Session

/-- Write `stamp` in later diagnostic lines. -/
def withStamp (s : Session) (stamp : String) : Session :=
  { s with env := { s.env with logging := s.env.logging.map fun lg => { lg with stamp := stamp } } }

/-- Hand one line of input to the slot. -/
def take (s : Session) (line : String) : Session :=
  { s with world := s.world.log s.env ⟨some "main", line⟩ }

/-- Shut down after the input ended, and log the counters. -/
def close (s : Session) : Session :=
  let w := s.world.shutdown s.env s.fwd
  let st := (w.fwd s.fwd).stats
  let w := w.note s.env (Event.say .info "logfwd" "Forwarder shutdown complete"
    [⟨"sent", .unsigned st.sent⟩, ⟨"retried", .unsigned st.retried⟩, ⟨"buffered", .unsigned st.buffered⟩,
      ⟨"local", .unsigned st.locally⟩, ⟨"failures", .unsigned st.failures⟩])
  { s with world := w.release s.env s.fwd }

/-- The outcome of a closed session. -/
def outcome (s : Session) : Outcome := ⟨0, "", consoleText s.world, delivered s.world⟩

end Session

/-- Start forwarding with valid settings. -/
def startForwarding (setup : Setup) (o : Options) (c : Config) : Start :=
  let env : Surroundings :=
    ⟨setup.machine, some ⟨"logfwd", if o.verbose then .debug else .info, setup.stamp, some "main"⟩⟩
  let w := setup.listening.foldl (fun w p => (w.addWire (.listener (some p) [])).1) World.empty
  let (w, k) := w.addForwarder c
  let failed (w : World) (r : Report) : Start :=
    let w := w.release env k
    .finished ⟨1, "", consoleText w ++ r.render, delivered w⟩
  match w.earlyBuffering env k (o.earlyBuffer.getD c.bufferCapacity) with
  | (w, .error e) => failed w ⟨"Failed to start early buffering", forwarderCauses e⟩
  | (w, .ok ()) =>
    match w.startFromConfig env k with
    | (w, .error e) =>
      failed w ⟨"Failed to start forwarding to " ++ c.host ++ ":" ++ toString c.port, forwarderCauses e⟩
    | (w, .ok ()) => .forwarding ⟨env, w, k⟩

/-- Start a run: read the arguments and the settings, and start forwarding. -/
def begin (setup : Setup) : Start :=
  match Request.ofArgs setup.args with
  | .help => .finished ⟨0, helpText, "", []⟩
  | .version => .finished ⟨0, versionText, "", []⟩
  | .refused e => .finished ⟨2, "", e.render, []⟩
  | .run o =>
    match settings setup o with
    | .error r => .finished ⟨1, "", r.render, []⟩
    | .ok c => startForwarding setup o c

/-- Whether the settings file of a run is its standard input, which reading the
settings then takes whole. -/
def Setup.settingsTakeInput (setup : Setup) : Bool :=
  match Request.ofArgs setup.args with
  | .run o => o.config.any setup.files.isInput
  | _ => false

/-- One whole run over the given input. -/
def run (setup : Setup) (stdin : String) : Outcome :=
  match begin setup with
  | .finished o => o
  | .forwarding s =>
    let lines := if setup.settingsTakeInput then [] else inputLines stdin
    (lines.foldl Session.take s).close.outcome

end SyslogRelay.Cli
