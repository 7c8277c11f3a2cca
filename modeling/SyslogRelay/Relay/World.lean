import SyslogRelay.Relay.Forwarder
import SyslogRelay.Relay.Wire
import SyslogRelay.Diagnostic

/-!
A world of forwarders sharing one slot. Operations call one another and take
fuel, one unit per call; `World.budget` is enough for every run.
-/

namespace SyslogRelay.Relay

open SyslogRelay.Diagnostic
open SyslogRelay.Record

/-- What a reactive sink does on its first record. -/
inductive Reaction
  /-- Stop forwarder `k`. -/
  | stop (k : Nat)
  /-- Start forwarder `k` towards the IPv4 loopback address at `port`. -/
  | start (k : Nat) (port : Nat)
  /-- Hand a record to the slot. -/
  | log (r : LogRecord)
  deriving DecidableEq, Repr

/-- How a reaction ended. -/
inductive ReactionOutcome
  | done
  /-- The forwarder was let go of before. -/
  | gone
  | failed (e : ForwarderError)
  deriving DecidableEq, Repr

/-- A sink that records what it gets and reacts to its first record. -/
structure ReactiveSink where
  reaction : Reaction
  records : List LogRecord
  fired : Bool
  outcome : Option ReactionOutcome
  deriving DecidableEq, Repr

/-- Which diagnostic events reach the slot, and how their lines are made. -/
structure Logging where
  /-- Events of this target, or of the modules under it, pass. -/
  scope : String
  /-- The most detailed level that passes. -/
  level : Level
  /-- The time written in each line. -/
  stamp : String
  /-- The task that logs the lines. -/
  task : Option String
  deriving DecidableEq, Repr

/-- Whether an event passes: its target is the scope or below it, and its level
is no more detailed than allowed. -/
def Logging.admits (lg : Logging) (e : Event) : Bool :=
  (e.target == lg.scope || e.target.startsWith (lg.scope ++ "::")) && lg.level.admits e.level

/-- What a world runs on: the machine, and where diagnostic events go. -/
structure Surroundings where
  machine : Net.Machine
  logging : Option Logging

/-- Forwarders sharing a slot, with everything their records can reach. -/
structure World where
  slot : Installed
  /-- The sink the slot held at first; a forwarder falls back to it when it replaced no foreign sink. -/
  fallback : Sink
  fwds : List Forwarder
  wires : List Wire
  recorders : List (List LogRecord)
  reactives : List ReactiveSink
  /-- Everything written to the console, in order. -/
  console : List LogRecord
  consoleFlushes : Nat
  /-- Whether a forwarder operation is under way. -/
  inside : Bool

/-- Bound, in bytes, of a record's text once it is forwarded or buffered. -/
def maxLineBytes : Nat := 200

/-- The target of the forwarders' diagnostic events. -/
def forwarderTarget : String := "logfwd::forwarder"

namespace World

/-- A world whose slot holds the console. -/
def empty : World := ⟨⟨.console, .foreign⟩, .console, [], [], [], [], [], 0, false⟩

def fwd (w : World) (k : Nat) : Forwarder := w.fwds.getD k default

def updateFwd (w : World) (k : Nat) (f : Forwarder → Forwarder) : World :=
  { w with fwds := w.fwds.modify k f }

def count (w : World) (k : Nat) (f : Stats → Stats) : World :=
  w.updateFwd k fun x => { x with stats := f x.stats }

def updateWire (w : World) (i : Nat) (f : Wire → Wire) : World :=
  { w with wires := w.wires.modify i f }

def wire (w : World) (i : Nat) : Option Wire := w.wires[i]?

/-- Add a forwarder, answering its index. -/
def addForwarder (w : World) (config : Config) : World × Nat :=
  ({ w with fwds := w.fwds ++ [Forwarder.new config] }, w.fwds.length)

/-- Add a wire, answering its index. -/
def addWire (w : World) (x : Wire) : World × Nat :=
  ({ w with wires := w.wires ++ [x] }, w.wires.length)

/-- Add a recording sink, answering its index. -/
def addRecorder (w : World) : World × Nat :=
  ({ w with recorders := w.recorders ++ [[]] }, w.recorders.length)

/-- Add a reactive sink, answering its index. -/
def addReactive (w : World) (r : Reaction) : World × Nat :=
  ({ w with reactives := w.reactives ++ [⟨r, [], false, none⟩] }, w.reactives.length)

/-- Put a sink in the slot as a foreign one, answering who had installed the one before. -/
def installForeign (w : World) (s : Sink) : World × Provenance :=
  let (slot, before) := w.slot.swap s .foreign
  ({ w with slot := slot }, before.provenance)

/-- The sink forwarder `k` falls back to. -/
def previousSink (w : World) (k : Nat) : Sink := (w.fwd k).previous.getD w.fallback

/-- Install forwarder `k`'s own sink, keeping a foreign sink it replaces. -/
def install (w : World) (k : Nat) (s : Sink) : World :=
  let (slot, replaced) := w.slot.swap s (.forwarder k)
  let w := { w with slot := slot }
  if replaced.provenance.isForwarder then w
  else w.updateFwd k fun f => { f with previous := some replaced.sink }

def restoreIf (w : World) (k : Nat) (previous : Sink) : World × Bool :=
  let (slot, ok) := w.slot.restoreIf k previous
  ({ w with slot := slot }, ok)

def flush (w : World) (s : Sink) : World :=
  if s = .console then { w with consoleFlushes := w.consoleFlushes + 1 } else w

/-- Close the sending end of a channel. -/
def closeChannel (w : World) : Channel → World
  | .wire i => w.updateWire i fun
    | .scripted s => .scripted { s with closes := s.closes + 1 }
    | x => x
  | .udp _ => w

/-- Take forwarder `k`'s backlog away from it. -/
def takeBacklog (w : World) (k : Nat) : World × Option Backlog :=
  (w.updateFwd k fun f => { f with backlog := none }, (w.fwd k).backlog)

/-- Take forwarder `k`'s link away from it. -/
def takeLink (w : World) (k : Nat) : World × Option Link :=
  (w.updateFwd k fun f => { f with link := none }, (w.fwd k).link)

/-- Forget the previous sink and return to uninstalled. -/
def settle (w : World) (k : Nat) : World :=
  w.updateFwd k fun f => { f with previous := none, mirror := f.config.mirror, state := .uninstalled }

/-- Run `f` with the operation flag set, then put the flag back. -/
def guarded {α : Type} (w : World) (f : World → World × α) : World × α :=
  let (w', a) := f { w with inside := true }
  ({ w' with inside := w.inside }, a)

/-- Count a sent datagram and its retries, and mark the boot when the policy says so. -/
def countSent (w : World) (k : Nat) (retries : Nat) : World :=
  let w := w.count k fun s => { s with retried := s.retried + retries, sent := s.sent + 1 }
  if (w.fwd k).config.bootMark = .firstTransmit then w.updateFwd k fun f => f.markBoot.1 else w

/-- The outcome of an attempt over scripted wire `i`, as its plan or fault gives
it; a delivered payload is kept. -/
def settleSend (w : World) (i : Nat) (payload : String) : World × Except Net.LinkError Unit :=
  match w.wire i with
  | some (.scripted s) =>
    match s.next with
    | (some e, s) => (w.updateWire i fun _ => .scripted s, .error e)
    | (none, s) =>
      (w.updateWire i fun _ => .scripted
        { s with payloads := s.payloads ++ [payload], retries := s.retries + s.retriesPerSend }, .ok ())
  | _ => (w, .error .closed)

/-- The notice written when forwarding is given up. -/
def disabledNotice (e : Net.LinkError) : LogRecord :=
  ⟨none, "remote logging disabled: " ++ e.message ++ "\n"⟩

/-! ### The operations -/

mutual

/-- Hand a record to the sink in the slot. -/
def dispatch : Nat → Surroundings → World → LogRecord → World
  | 0, _, w, _ => w
  | n + 1, env, w, r => write n env w w.slot.sink r

/-- A sink takes a record. -/
def write : Nat → Surroundings → World → Sink → LogRecord → World
  | 0, _, w, _, _ => w
  | n + 1, env, w, s, r =>
    match s with
    | .console => { w with console := w.console ++ [r] }
    | .recorder i => { w with recorders := w.recorders.modify i (· ++ [r]) }
    | .reactive i =>
      let w := { w with reactives := w.reactives.modify i fun x => { x with records := x.records ++ [r] } }
      match w.reactives[i]? with
      | some x =>
        if x.fired then w
        else
          let w := { w with reactives := w.reactives.modify i fun x => { x with fired := true } }
          let (w, out) := react n env w x.reaction
          { w with reactives := w.reactives.modify i fun x => { x with outcome := some out } }
      | none => w
    | .buffering k => defer n env w k r
    | .forwarding k => forward n env w k r

/-- Carry out a reaction. -/
def react : Nat → Surroundings → World → Reaction → World × ReactionOutcome
  | 0, _, w, _ => (w, .done)
  | n + 1, env, w, .stop k => if (w.fwd k).dropped then (w, .gone) else (stop n env w k, .done)
  | n + 1, env, w, .start k port =>
    if (w.fwd k).dropped then (w, .gone)
    else
      match start n env w k "127.0.0.1" port none false false with
      | (w, .ok ()) => (w, .done)
      | (w, .error e) => (w, .failed e)
  | n + 1, env, w, .log r => (dispatch n env w r, .done)

/-- Write a record to the sink forwarder `k` replaced, counting it as written locally. -/
def fallBack : Nat → Surroundings → World → Nat → Sink → LogRecord → World
  | 0, _, w, _, _, _ => w
  | n + 1, env, w, k, previous, r =>
    write n env (w.count k fun s => { s with locally := s.locally + 1 }) previous r

/-- Write each entry of a backlog locally, oldest first. -/
def replay : Nat → Surroundings → World → Nat → Sink → List Entry → World
  | 0, _, w, _, _, _ => w
  | n + 1, env, w, k, previous, es => es.foldl (fun w e => fallBack n env w k previous (LogRecord.ofEntry e)) w

/-- Also write a handled record locally, when forwarder `k` mirrors. -/
def echo : Nat → Surroundings → World → Nat → LogRecord → World
  | 0, _, w, _, _ => w
  | n + 1, env, w, k, r => if (w.fwd k).mirror then write n env w (w.previousSink k) r else w

/-- Store a record in forwarder `k`'s backlog, or write it locally when the backlog
stores nothing. -/
def defer : Nat → Surroundings → World → Nat → LogRecord → World
  | 0, _, w, _, _ => w
  | n + 1, env, w, k, r =>
    let text := Text.cutBytes r.text maxLineBytes
    match (w.fwd k).backlog with
    | none => fallBack n env w k (w.previousSink k) r
    | some b =>
      match b.append r.task text with
      | (_, .disabled) => fallBack n env w k (w.previousSink k) r
      | (b, out) =>
        let w := w.updateFwd k fun f => { f with backlog := some b }
        let w := if out = .evicted then w.count k fun s => { s with evicted := s.evicted + 1 } else w
        let w := w.count k fun s => { s with buffered := s.buffered + 1 }
        echo n env w k r

/-- Send one payload over a scripted wire. -/
def sendScripted : Nat → Surroundings → World → Nat → String → World × Except Net.LinkError Unit
  | 0, _, w, _, _ => (w, .ok ())
  | n + 1, env, w, i, payload =>
    match w.wire i with
    | some (.scripted s) =>
      let w := w.updateWire i fun _ => .scripted { s with attempts := s.attempts + 1 }
      let w := s.onSend.foldl (fun w r => dispatch n env w r) w
      w.settleSend i payload
    | _ => (w, .error .closed)

/-- Encode and send one record over a link, counting it when it went out. -/
def transmit : Nat → Surroundings → World → Nat → Link → Option String → String →
    World × Link × Except Net.LinkError Unit
  | 0, _, w, _, link, _, _ => (w, link, .ok ())
  | n + 1, env, w, k, link, task, text =>
    let payload := link.encoder.encode text task
    match link.channel with
    | .wire i =>
      let before := ((w.wire i).map Wire.retries).getD 0
      match sendScripted n env w i payload with
      | (w, .ok ()) =>
        let after := ((w.wire i).map Wire.retries).getD 0
        (w.countSent k (after - before), link, .ok ())
      | (w, .error e) => (w, link, .error e)
    | .udp l =>
      match l.send env.machine.network with
      | (l', .ok ()) =>
        let w := { w with wires := w.wires.map (Wire.deliver l.dest.port payload) }
        (w.countSent k (l'.retries - l.retries), { link with channel := .udp l' }, .ok ())
      | (l', .error e) => (w, { link with channel := .udp l' }, .error e)

/-- Forward a record: defer it when an operation is under way or its task may not
send, write it locally without a link, else send the backlog and then it. -/
def forward : Nat → Surroundings → World → Nat → LogRecord → World
  | 0, _, w, _, _ => w
  | n + 1, env, w, k, r =>
    if w.inside || (w.fwd k).config.isConflicting r.task then defer n env w k r
    else
      (w.guarded fun w =>
        match (w.fwd k).link with
        | none => (fallBack n env w k (w.previousSink k) r, ())
        | some link =>
          let pending := ((w.fwd k).backlog.map Backlog.len).getD 0
          (drainThenSend n env w k r link pending, ())).1

/-- Send up to `pending` backlog entries, then the record itself; on the first
failure close the link and tear down. -/
def drainThenSend : Nat → Surroundings → World → Nat → LogRecord → Link → Nat → World
  | 0, _, w, _, _, _, _ => w
  | n + 1, env, w, k, r, link, 0 =>
    match transmit n env w k link r.task (Text.cutBytes r.text maxLineBytes) with
    | (w, link, .ok ()) =>
      echo n env (w.updateFwd k fun f => { f with link := some link }) k r
    | (w, link, .error e) =>
      let w := (w.updateFwd k fun f => { f with link := none }).closeChannel link.channel
      teardown n env w k e none r
  | n + 1, env, w, k, r, link, pending + 1 =>
    match (w.fwd k).backlog.map Backlog.drainOne with
    | some (b, some entry) =>
      let w := w.updateFwd k fun f => { f with backlog := some b }
      let w := w.count k fun s => { s with drained := s.drained + 1 }
      match transmit n env w k link entry.task entry.text with
      | (w, link, .ok ()) =>
        drainThenSend n env (w.updateFwd k fun f => { f with link := some link }) k r link pending
      | (w, link, .error e) =>
        let w := (w.updateFwd k fun f => { f with link := none }).closeChannel link.channel
        teardown n env w k e (some entry) r
    | _ => drainThenSend n env w k r link 0

/-- Give up forwarding after a failed send: write the unsent entry, the backlog,
a notice and the record locally, and give the slot back. -/
def teardown : Nat → Surroundings → World → Nat → Net.LinkError → Option Entry → LogRecord → World
  | 0, _, w, _, _, _, _ => w
  | n + 1, env, w, k, err, unsent, r =>
    let previous := w.previousSink k
    let w := match unsent with
      | some e => fallBack n env w k previous (LogRecord.ofEntry e)
      | none => w
    if (w.fwd k).state ≠ .active then fallBack n env w k previous r
    else
      let w := w.updateFwd k fun f => { f with state := .restoring }
      let w := w.count k fun s => { s with failures := s.failures + 1 }
      let (w, backlog) := w.takeBacklog k
      let w := match backlog with
        | some b => replay n env w k previous b.entries
        | none => w
      let w := fallBack n env w k previous (disabledNotice err)
      let w := fallBack n env w k previous r
      let w := w.flush previous
      (w.restoreIf k previous).1.settle k

/-- Send the entries of a taken backlog until one fails. Answers the world, the
entries left, and the error of the failed send. -/
def drainTaken : Nat → Surroundings → World → Nat → Sink → Link → List Entry →
    World × List Entry × Option Net.LinkError
  | 0, _, w, _, _, _, es => (w, es, none)
  | _ + 1, _, w, _, _, _, [] => (w, [], none)
  | n + 1, env, w, k, previous, link, e :: es =>
    let w := w.count k fun s => { s with drained := s.drained + 1 }
    match transmit n env w k link e.task e.text with
    | (w, link, .ok ()) => drainTaken n env w k previous link es
    | (w, _, .error err) =>
      let w := w.count k fun s => { s with failures := s.failures + 1 }
      (fallBack n env w k previous (LogRecord.ofEntry e), es, some err)

/-- Stop forwarder `k`: send what the backlog holds while the link works, write
the rest locally, and give the slot back. -/
def stop : Nat → Surroundings → World → Nat → World
  | 0, _, w, _ => w
  | n + 1, env, w, k =>
    (w.guarded fun w =>
      if (w.fwd k).state = .uninstalled then (w, ())
      else
        let w := w.updateFwd k fun f => { f with state := .restoring }
        let previous := w.previousSink k
        let (w, link) := w.takeLink k
        let (w, backlog) := w.takeBacklog k
        let (w, rest, failed) := match backlog, link with
          | some b, some l => drainTaken n env w k previous l b.entries
          | some b, none => (w, b.entries, none)
          | none, _ => (w, [], none)
        let w := match link with
          | some l => w.closeChannel l.channel
          | none => w
        let w := replay n env w k previous rest
        let w := match failed with
          | some e => fallBack n env w k previous (disabledNotice e)
          | none => w
        let w := w.flush previous
        let (w, restored) := w.restoreIf k previous
        let w := w.settle k
        (announce n env w (Event.say .info forwarderTarget "remote logging stopped" [⟨"restored", .flag restored⟩]), ())).1

/-- Let the slot see a diagnostic event, when logging lets it through. -/
def announce : Nat → Surroundings → World → Event → World
  | 0, _, w, _ => w
  | n + 1, env, w, e =>
    match env.logging with
    | some lg => if lg.admits e then dispatch n env w ⟨lg.task, e.render lg.stamp⟩ else w
    | none => w

/-- Let the slot see several diagnostic events in turn. -/
def announceAll : Nat → Surroundings → World → List Event → World
  | 0, _, w, _ => w
  | _ + 1, _, w, [] => w
  | n + 1, env, w, e :: es => announceAll n env (announce n env w e) es

/-- Begin buffering: forwarder `k`'s backlog and buffering sink take records until it is activated. -/
def startBuffering : Nat → Surroundings → World → Nat → Nat → World × Except ForwarderError Unit
  | 0, _, w, _, _ => (w, .ok ())
  | n + 1, env, w, k, capacity =>
    w.guarded fun w =>
      let state := (w.fwd k).state
      if state ≠ .uninstalled then (w, .error (.invalidState state))
      else
        let w := w.updateFwd k fun f => { f with backlog := some (Backlog.new capacity) }
        let w := (w.install k (.buffering k)).updateFwd k fun f => { f with state := .earlyBuffering }
        (announce n env w (Event.say .debug forwarderTarget "early log buffering started"
          [⟨"capacity", .unsigned capacity⟩]), .ok ())

/-- Activate forwarder `k` over a channel: records now go to the collector. -/
def activate : Nat → Surroundings → World → Nat → Channel → Option String → Bool → Bool →
    World × Except ForwarderError Unit
  | 0, _, w, _, _, _, _, _ => (w, .ok ())
  | n + 1, env, w, k, channel, app, raw, mirror =>
    w.guarded fun w =>
      match (w.fwd k).state with
      | .active => (w, .error .alreadyActive)
      | .restoring => (w, .error (.invalidState .restoring))
      | _ =>
        let config := (w.fwd k).config
        let encoder := if raw then LineEncoder.raw else .syslog (Template.new config.hostname app config.facility)
        let w := w.updateFwd k fun f => { f with link := some ⟨channel, encoder⟩, mirror := mirror }
        let w := if ((w.fwd k).backlog).isNone then
            w.updateFwd k fun f => { f with backlog := some (Backlog.new config.bufferCapacity) }
          else w
        let w := (w.install k (.forwarding k)).updateFwd k fun f => { f with state := .active }
        let collector := match channel.destination with
          | some a => [⟨"collector", .text a.text⟩]
          | none => []
        (announce n env w (Event.say .info forwarderTarget "remote logging started"
          (collector ++ [⟨"raw", .flag raw⟩, ⟨"mirror", .flag mirror⟩])), .ok ())

/-- Start forwarder `k`: resolve the host, open a UDP link and activate. -/
def start : Nat → Surroundings → World → Nat → String → Nat → Option String → Bool → Bool →
    World × Except ForwarderError Unit
  | 0, _, w, _, _, _, _, _, _ => (w, .ok ())
  | n + 1, env, w, k, host, port, app, raw, mirror =>
    match (w.fwd k).state with
    | .active => (w, .error .alreadyActive)
    | .restoring => (w, .error (.invalidState .restoring))
    | _ =>
      w.guarded fun w =>
        let config := (w.fwd k).config
        let (resolved, events) := (Net.Resolver.withLocalLink config.mdnsTimeoutMs).resolve env.machine host
        let w := announceAll n env w events
        match resolved with
        | .error e => (w, .error (.resolve host e))
        | .ok ip =>
          match Net.UdpLink.open? env.machine.network ip port ⟨config.sendTimeoutMs, config.retryIntervalMs⟩ with
          | .error e => (w, .error (.transport e))
          | .ok l =>
            let w := announce n env w (Event.say .debug "logfwd::transport" "UDP transport opened"
              [⟨"collector", .text l.dest.text⟩])
            activate n env w k (.udp l) app raw mirror

end

/-! ### Operations of a world -/

/-- Fuel enough for any operation: loops walk backlogs, and every reactive sink
adds at most one level of nesting. -/
def budget (w : World) : Nat :=
  let entries := w.fwds.foldr (fun f total => f.buffered + total) 0
  4 * (w.reactives.length + 4) * (entries + w.fwds.length + 64)

def log (env : Surroundings) (w : World) (r : LogRecord) : World := dispatch w.budget env w r

def earlyBuffering (env : Surroundings) (w : World) (k capacity : Nat) :
    World × Except ForwarderError Unit :=
  startBuffering w.budget env w k capacity

def activateOver (env : Surroundings) (w : World) (k : Nat) (c : Channel) (app : Option String)
    (raw mirror : Bool) : World × Except ForwarderError Unit :=
  activate w.budget env w k c app raw mirror

def startTowards (env : Surroundings) (w : World) (k : Nat) (host : String) (port : Nat)
    (app : Option String) (raw mirror : Bool) : World × Except ForwarderError Unit :=
  start w.budget env w k host port app raw mirror

/-- Start forwarder `k` as its settings say. -/
def startFromConfig (env : Surroundings) (w : World) (k : Nat) : World × Except ForwarderError Unit :=
  let c := (w.fwd k).config
  w.startTowards env k c.host c.port c.appName c.raw c.mirror

def stopForwarder (env : Surroundings) (w : World) (k : Nat) : World := stop w.budget env w k

/-- Shut down: wait the grace period when installed, then stop. Waiting changes nothing here. -/
def shutdown (env : Surroundings) (w : World) (k : Nat) : World := w.stopForwarder env k

/-- Let go of forwarder `k`, which stops it. -/
def release (env : Surroundings) (w : World) (k : Nat) : World :=
  (w.updateFwd k fun f => { f with dropped := true }).stopForwarder env k

/-- Let the slot see a diagnostic event raised outside any forwarder operation. -/
def note (env : Surroundings) (w : World) (e : Event) : World := announce w.budget env w e

/-- Mark the boot of forwarder `k` by hand. -/
def markBoot (w : World) (k : Nat) : World × Bool :=
  let (f, fired) := (w.fwd k).markBoot
  (w.updateFwd k fun _ => f, fired)

def addMarker (w : World) (k : Nat) : World × Bool :=
  let (f, ok) := (w.fwd k).addMarker
  (w.updateFwd k fun _ => f, ok)

/-- Debug text of the slot: the provenance of its occupant. -/
def slotDebugText (w : World) (idText : Nat → String) : String :=
  provenanceDebug "SinkSlot" w.slot.provenance idText

/-- Forwarder `k` is bound to this world's slot, as every forwarder the world adds is. -/
def boundToSlot (w : World) (k : Nat) : Bool := decide (k < w.fwds.length)

end World

/-- A handle that shuts a forwarder down without keeping it alive. -/
structure ShutdownHook where
  target : Nat
  deriving DecidableEq, Repr

namespace ShutdownHook

/-- The forwarder has not been let go. -/
def alive (h : ShutdownHook) (w : World) : Bool := !(w.fwd h.target).dropped

/-- Shut the forwarder down, or do nothing once it has been let go. -/
def run (h : ShutdownHook) (env : Surroundings) (w : World) : World :=
  if h.alive w then w.shutdown env h.target else w

def debugText (h : ShutdownHook) (w : World) : String :=
  "ShutdownHook \x7b alive: " ++ toString (h.alive w) ++ " \x7d"

end ShutdownHook

end SyslogRelay.Relay
