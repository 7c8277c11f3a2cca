import SyslogRelay.Relay.Sink
import SyslogRelay.Config.Basic
import SyslogRelay.Record.Template
import SyslogRelay.Net.Resolver

namespace SyslogRelay.Relay

open SyslogRelay.Record

/-- The lifecycle of a forwarder. -/
inductive State
  | uninstalled
  | earlyBuffering
  | active
  | restoring
  deriving DecidableEq, Repr, Inhabited

namespace State

def name : State → String
  | uninstalled => "uninstalled"
  | earlyBuffering => "early-buffering"
  | active => "active"
  | restoring => "restoring"

/-- The name of the state in debug text. -/
def debugName : State → String
  | uninstalled => "Uninstalled"
  | earlyBuffering => "EarlyBuffering"
  | active => "Active"
  | restoring => "Restoring"

end State

/-- Counters of what a forwarder did with records. -/
structure Stats where
  /-- Datagrams sent. -/
  sent : Nat
  /-- Retries spent by sent datagrams. -/
  retried : Nat
  /-- Records stored in the backlog. -/
  buffered : Nat
  /-- Entries taken from the backlog to be sent. -/
  drained : Nat
  /-- Entries pushed out of a full backlog. -/
  evicted : Nat
  /-- Records written to the sink that was there before. -/
  locally : Nat
  /-- Times forwarding was given up after a failed send. -/
  failures : Nat
  deriving DecidableEq, Repr, Inhabited

def Stats.zero : Stats := ⟨0, 0, 0, 0, 0, 0, 0⟩

/-- Why a forwarder operation was refused. -/
inductive ForwarderError
  | resolve (host : String) (source : Net.ResolveError)
  | transport (e : Net.LinkError)
  | alreadyActive
  | invalidState (s : State)
  deriving DecidableEq, Repr

def ForwarderError.message : ForwarderError → String
  | .resolve host source => "cannot resolve collector host '" ++ host ++ "': " ++ source.message
  | .transport e => e.message
  | .alreadyActive => "remote logging is already active"
  | .invalidState s => "operation not allowed in state " ++ s.name

/-- Where a forwarder's datagrams go. -/
inductive Channel
  /-- The scripted wire with this number. -/
  | wire (i : Nat)
  /-- A UDP link. -/
  | udp (l : Net.UdpLink)
  deriving DecidableEq, Repr

/-- The collector address of a channel, when it has one. -/
def Channel.destination : Channel → Option Net.SocketAddr
  | .wire _ => none
  | .udp l => some l.dest

/-- An active forwarder's way to the collector. -/
structure Link where
  channel : Channel
  encoder : LineEncoder
  deriving DecidableEq

/-- One forwarder. -/
structure Forwarder where
  config : Config
  state : State
  /-- The foreign sink its own sink replaced, if any. -/
  previous : Option Sink
  backlog : Option Backlog
  link : Option Link
  mirror : Bool
  boot : BootSignal
  /-- Boot markers given to it, with how often each was told. -/
  markers : Markers
  stats : Stats
  /-- Whether its owner let go of it. -/
  dropped : Bool

namespace Forwarder

def new (config : Config) : Forwarder :=
  ⟨config, .uninstalled, none, none, none, config.mirror, BootSignal.new, Markers.empty, Stats.zero, false⟩

instance : Inhabited Forwarder := ⟨new (Config.defaults none)⟩

/-- Records waiting in the backlog. -/
def buffered (f : Forwarder) : Nat := (f.backlog.map Backlog.len).getD 0

/-- Debug text, with the forwarder's identity written as `id`. -/
def debugText (f : Forwarder) (id : String) : String :=
  "Forwarder \x7b id: " ++ id ++ ", state: " ++ f.state.debugName ++ ", buffered: " ++
    toString f.buffered ++ " \x7d"

/-- Fire the boot signal, telling its marker the first time. Answers whether it fired. -/
def markBoot (f : Forwarder) : Forwarder × Bool :=
  let (boot, fired, told) := f.boot.mark
  ({ f with boot := boot, markers := match told with | some i => f.markers.tell i | none => f.markers }, fired)

/-- Give the boot signal a new marker. Answers whether it took it. -/
def addMarker (f : Forwarder) : Forwarder × Bool :=
  let (markers, i) := f.markers.create
  let (boot, ok) := f.boot.setMarker i
  ({ f with markers := markers, boot := boot }, ok)

end Forwarder

end SyslogRelay.Relay
