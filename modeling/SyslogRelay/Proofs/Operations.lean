import SyslogRelay.Proofs.Fuel

namespace SyslogRelay.Relay

/-- An operation a caller makes on a world. -/
inductive Op
  /-- Add a forwarder with these settings. -/
  | addForwarder (config : Config)
  /-- Hand a record to the sink in the slot. -/
  | log (r : LogRecord)
  | earlyBuffering (k capacity : Nat)
  /-- Activate forwarder `k` over a scripted wire handed over for it. -/
  | activate (k : Nat) (x : ScriptedWire) (app : Option String) (raw mirror : Bool)
  | start (k : Nat) (host : String) (port : Nat) (app : Option String) (raw mirror : Bool)
  | stop (k : Nat)
  | shutdown (k : Nat)
  /-- Put a sink in the slot from outside the forwarders. -/
  | install (s : Sink)

/-- What a caller can do: name a forwarder it holds, activate it over a wire
nobody closed, and put in the slot a sink that only keeps records. -/
def Op.Allowed (w : World) : Op → Prop
  | .addForwarder _ | .log _ => True
  | .earlyBuffering k _ | .start k .. | .stop k | .shutdown k => k < w.fwds.length
  | .activate k x .. => k < w.fwds.length ∧ x.closes = 0
  | .install s => s.isLocal = true

namespace World

def apply (env : Surroundings) (w : World) : Op → World
  | .addForwarder config => (w.addForwarder config).1
  | .log r => w.log env r
  | .earlyBuffering k capacity => (w.earlyBuffering env k capacity).1
  | .activate k x app raw mirror =>
    let (w, i) := w.addWire (.scripted x)
    (w.activateOver env k (.wire i) app raw mirror).1
  | .start k host port app raw mirror => (w.startTowards env k host port app raw mirror).1
  | .stop k => w.stopForwarder env k
  | .shutdown k => w.shutdown env k
  | .install s => (w.installForeign s).1

/-- The operations in turn. -/
def run (env : Surroundings) (w : World) (ops : List Op) : World := ops.foldl (apply env) w

/-- Each operation is allowed on the world the ones before it leave. -/
def Allows (env : Surroundings) : World → List Op → Prop
  | _, [] => True
  | w, op :: ops => op.Allowed w ∧ Allows env (w.apply env op) ops

end World

namespace Trail

def apply (env : Surroundings) (w : World) : Op → Trail
  | .addForwarder config => idle (w.addForwarder config).1
  | .log r => dispatch env w r
  | .earlyBuffering k capacity => (startBuffering env w k capacity).1
  | .activate k x app raw mirror =>
    let (w, i) := w.addWire (.scripted x)
    (activate env w k (.wire i) app raw mirror).1
  | .start k host port app raw mirror => (start env w k host port app raw mirror).1
  | .stop k | .shutdown k => stop env w k
  | .install s => idle (w.installForeign s).1

/-- The operations in turn, with their effects in order. -/
def run (env : Surroundings) (w : World) : List Op → Trail
  | [] => idle w
  | op :: ops => (apply env w op).bind fun w => run env w ops

end Trail

namespace World

variable {env : Surroundings} {w : World}

theorem Plain.addWire (hp : w.Plain) (x : Wire) : (w.addWire x).1.Plain := ⟨hp.previous, hp.slot⟩

theorem apply_world (hp : w.Plain) (op : Op) : (Trail.apply env w op).world = w.apply env op := by
  cases op with
  | addForwarder config => rfl
  | log r => exact (log_eq hp r).symm
  | earlyBuffering k capacity => simp only [Trail.apply, apply, earlyBuffering_eq hp]
  | activate k x app raw mirror => simp only [Trail.apply, apply, activateOver_eq (hp.addWire _)]
  | start k host port app raw mirror => simp only [Trail.apply, apply, startTowards_eq hp]
  | stop k => exact (stopForwarder_eq hp k).symm
  | shutdown k => exact (stopForwarder_eq hp k).symm
  | install s => rfl

end World

end SyslogRelay.Relay
