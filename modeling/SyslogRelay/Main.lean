import SyslogRelay.Cli.Run

open SyslogRelay
open SyslogRelay.Cli

/-- The variables a run reads. -/
def runVariables : List String :=
  ["HOSTNAME", "HOST", Config.envHost, Config.envPort, Config.envApp, Config.envHostname,
    Config.envRaw, Config.envMirror, Config.envBuffer]

/-- The error of a failed file read, by its error number where it has one. -/
def readFailure : IO.Error → IoError
  | .noFileOrDirectory _ code _ => .os code.toNat
  | .permissionDenied _ code _ => .os code.toNat
  | .inappropriateType _ code _ => .os code.toNat
  | e => .custom .other (toString e)

/-- The settings file the arguments name, read. -/
def readSettingsFile (args : List String) : IO Files := do
  match Request.ofArgs args with
  | .run o =>
    match o.config with
    | some path =>
      try
        let text ← IO.FS.readFile path
        pure ⟨fun p => if p = path then .ok text else .error (.os 2), fun _ => false⟩
      catch e => pure ⟨fun p => if p = path then .error (readFailure e) else .error (.os 2), fun _ => false⟩
    | none => pure Files.none
  | _ => pure Files.none

/-- Write the console lines of a world from the `shown`-th on; answers how many are shown. -/
def showConsole (stderr : IO.FS.Stream) (w : Relay.World) (shown : Nat) : IO Nat := do
  for r in w.console.drop shown do
    stderr.putStr r.text
  stderr.flush
  pure w.console.length

/-- Milliseconds since `start`, as written in diagnostic lines. -/
def stampSince (start : Nat) : IO String := do
  pure (toString ((← IO.monoMsNow) - start))

/-- Hand standard input to the session line by line until it ends. -/
partial def pump (stdin stderr : IO.FS.Stream) (start : Nat) (s : Session) (shown : Nat) :
    IO (Session × Nat) := do
  let line ← stdin.getLine
  if line.isEmpty then return (s, shown)
  let s := (s.withStamp (← stampSince start)).take line
  let shown ← showConsole stderr s.world shown
  pump stdin stderr start s shown

def main (args : List String) : IO UInt32 := do
  let start ← IO.monoMsNow
  let env ← runVariables.filterMapM fun name => do
    pure ((← IO.getEnv name).map fun value => (name, value))
  let files ← readSettingsFile args
  let stdout ← IO.getStdout
  let stderr ← IO.getStderr
  match begin ⟨args, env, files, Net.Machine.isolated, ← stampSince start, []⟩ with
  | .finished o =>
    stdout.putStr o.stdout
    stdout.flush
    stderr.putStr o.stderr
    stderr.flush
    pure o.code.toUInt32
  | .forwarding s =>
    let shown ← showConsole stderr s.world 0
    let (s, shown) ← pump (← IO.getStdin) stderr start s shown
    let s := (s.withStamp (← stampSince start)).close
    let _ ← showConsole stderr s.world shown
    pure 0
