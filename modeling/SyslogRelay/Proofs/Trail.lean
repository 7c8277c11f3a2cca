import SyslogRelay.Relay.World

/-!
The operations of a world whose sinks only keep what they are given, written
without fuel, with what they do that can be seen outside the forwarders.
-/

namespace SyslogRelay.Relay

open SyslogRelay.Diagnostic
open SyslogRelay.Record

/-- A sink that only keeps what it is given. -/
def Sink.isLocal : Sink → Bool
  | .console | .recorder _ => true
  | _ => false

/-- What an operation did that can be seen or counted outside the forwarders. -/
inductive Effect
  /-- Forwarder `k`'s sink took the record from the slot. -/
  | took (k : Nat) (r : LogRecord)
  /-- A send of forwarder `k` carrying the text of `task` went through. -/
  | sent (k : Nat) (task : Option String) (text : String)
  /-- A send of forwarder `k` carrying the text of `task` failed. -/
  | refused (k : Nat) (task : Option String) (text : String) (e : Net.LinkError)
  /-- Forwarder `k` wrote the record to the sink it replaced, in place of sending it. -/
  | wrote (k : Nat) (s : Sink) (r : LogRecord)
  /-- Forwarder `k` copied a record it handled to the sink it replaced. -/
  | mirrored (k : Nat) (s : Sink) (r : LogRecord)
  /-- Forwarder `k`'s backlog `b` stored the text of `task`. -/
  | stored (k : Nat) (b : Backlog) (task : Option String) (text : String)
  /-- Forwarder `k` told the sink it replaced that it gave up after error `e`. -/
  | noticed (k : Nat) (s : Sink) (e : Net.LinkError)
  deriving DecidableEq, Repr

namespace World

/-- A local sink keeps the record; no other sink is touched. -/
def keep (w : World) (s : Sink) (r : LogRecord) : World :=
  match s with
  | .console => { w with console := w.console ++ [r] }
  | .recorder i => { w with recorders := w.recorders.modify i (· ++ [r]) }
  | _ => w

end World

/-- The world an operation leaves and what it did on the way. -/
structure Trail where
  world : World
  effects : List Effect

namespace Trail

/-- A world with nothing done. -/
def idle (w : World) : Trail := ⟨w, []⟩

def emit (w : World) (e : Effect) : Trail := ⟨w, [e]⟩

/-- Effects that came before. -/
def after (es : List Effect) (t : Trail) : Trail := ⟨t.world, es ++ t.effects⟩

/-- First `t`, then `f` on the world it leaves; the effects of both, in order. -/
def bind (t : Trail) (f : World → Trail) : Trail := (f t.world).after t.effects

/-- Set whether a forwarder operation is under way. -/
def within (t : Trail) (inside : Bool) : Trail := ⟨{ t.world with inside := inside }, t.effects⟩

def keep (w : World) (s : Sink) (r : LogRecord) : Trail := idle (w.keep s r)

def fallBack (w : World) (k : Nat) (previous : Sink) (r : LogRecord) : Trail :=
  ⟨(w.count k fun s => { s with locally := s.locally + 1 }).keep previous r, [.wrote k previous r]⟩

/-- Write the notice that forwarding was given up after error `e`. -/
def notice (w : World) (k : Nat) (previous : Sink) (e : Net.LinkError) : Trail :=
  ⟨(fallBack w k previous (World.disabledNotice e)).world, [.noticed k previous e]⟩

def replay (w : World) (k : Nat) (previous : Sink) : List Entry → Trail
  | [] => idle w
  | e :: es => (fallBack w k previous (LogRecord.ofEntry e)).bind fun w => replay w k previous es

def echo (w : World) (k : Nat) (r : LogRecord) : Trail :=
  if (w.fwd k).mirror then ⟨w.keep (w.previousSink k) r, [.mirrored k (w.previousSink k) r]⟩
  else idle w

def defer (w : World) (k : Nat) (r : LogRecord) : Trail :=
  let text := Text.cutBytes r.text maxLineBytes
  match (w.fwd k).backlog with
  | none => fallBack w k (w.previousSink k) r
  | some b =>
    match b.append r.task text with
    | (_, .disabled) => fallBack w k (w.previousSink k) r
    | (b', out) =>
      let w := w.updateFwd k fun f => { f with backlog := some b' }
      let w := if out = .evicted then w.count k fun s => { s with evicted := s.evicted + 1 } else w
      let w := w.count k fun s => { s with buffered := s.buffered + 1 }
      (echo w k r).after [.stored k b r.task text]

/-- A record handed to the slot while a forwarder operation is under way: a
forwarder's sink defers it, a local sink keeps it. -/
def dispatchInside (w : World) (r : LogRecord) : Trail :=
  match w.slot.sink with
  | .buffering k | .forwarding k => (emit w (.took k r)).bind fun w => defer w k r
  | s => keep w s r

/-- Records handed to the slot one after another while a forwarder operation is under way. -/
def dispatchAllInside (w : World) : List LogRecord → Trail
  | [] => idle w
  | r :: rs => (dispatchInside w r).bind fun w => dispatchAllInside w rs

/-- The records a wire logs on each attempt reach the slot in turn. -/
def logAttempt (w : World) (s : ScriptedWire) : Trail := dispatchAllInside w s.onSend

def sendScripted (w : World) (i : Nat) (payload : String) : Trail × Except Net.LinkError Unit :=
  match w.wire i with
  | some (.scripted s) =>
    let t := logAttempt (w.updateWire i fun _ => .scripted { s with attempts := s.attempts + 1 }) s
    let settled := t.world.settleSend i payload
    (⟨settled.1, t.effects⟩, settled.2)
  | _ => (idle w, .error .closed)

def transmit (env : Surroundings) (w : World) (k : Nat) (link : Link) (task : Option String)
    (text : String) : Trail × Link × Except Net.LinkError Unit :=
  let payload := link.encoder.encode text task
  match link.channel with
  | .wire i =>
    let before := ((w.wire i).map Wire.retries).getD 0
    match sendScripted w i payload with
    | (t, .ok ()) =>
      let after := ((t.world.wire i).map Wire.retries).getD 0
      (⟨t.world.countSent k (after - before), t.effects ++ [.sent k task text]⟩, link, .ok ())
    | (t, .error e) => (⟨t.world, t.effects ++ [.refused k task text e]⟩, link, .error e)
  | .udp l =>
    match l.send env.machine.network with
    | (l', .ok ()) =>
      let w := { w with wires := w.wires.map (Wire.deliver l.dest.port payload) }
      (⟨w.countSent k (l'.retries - l.retries), [.sent k task text]⟩, { link with channel := .udp l' },
        .ok ())
    | (l', .error e) => (⟨w, [.refused k task text e]⟩, { link with channel := .udp l' }, .error e)

/-- Give up forwarding while active: write the backlog, a notice and the record
to the sink forwarder `k` replaced, and give the slot back. -/
def disable (w : World) (k : Nat) (err : Net.LinkError) (previous : Sink) (r : LogRecord) : Trail :=
  let w := w.updateFwd k fun f => { f with state := .restoring }
  let w := w.count k fun s => { s with failures := s.failures + 1 }
  let (w, backlog) := w.takeBacklog k
  let t := match backlog with
    | some b => replay w k previous b.entries
    | none => idle w
  t.bind fun w =>
    (notice w k previous err).bind fun w =>
      (fallBack w k previous r).bind fun w =>
        idle (((w.flush previous).restoreIf k previous).1.settle k)

def teardown (w : World) (k : Nat) (err : Net.LinkError) (unsent : Option Entry) (r : LogRecord) :
    Trail :=
  let previous := w.previousSink k
  let t := match unsent with
    | some e => fallBack w k previous (LogRecord.ofEntry e)
    | none => idle w
  t.bind fun w => if (w.fwd k).state ≠ .active then fallBack w k previous r else disable w k err previous r

/-- Close the link after a failed send and tear down. -/
def giveUp (w : World) (k : Nat) (link : Link) (err : Net.LinkError) (unsent : Option Entry)
    (r : LogRecord) : Trail :=
  teardown ((w.updateFwd k fun f => { f with link := none }).closeChannel link.channel) k err unsent r

/-- Send the record itself once the backlog is drained. -/
def sendLast (env : Surroundings) (w : World) (k : Nat) (r : LogRecord) (link : Link) : Trail :=
  match transmit env w k link r.task (Text.cutBytes r.text maxLineBytes) with
  | (t, link, .ok ()) => t.bind fun w => echo (w.updateFwd k fun f => { f with link := some link }) k r
  | (t, link, .error e) => t.bind fun w => giveUp w k link e none r

def drainThenSend (env : Surroundings) (w : World) (k : Nat) (r : LogRecord) (link : Link) :
    Nat → Trail
  | 0 => sendLast env w k r link
  | pending + 1 =>
    match (w.fwd k).backlog.map Backlog.drainOne with
    | some (b, some entry) =>
      let w := w.updateFwd k fun f => { f with backlog := some b }
      let w := w.count k fun s => { s with drained := s.drained + 1 }
      match transmit env w k link entry.task entry.text with
      | (t, link, .ok ()) =>
        t.bind fun w => drainThenSend env (w.updateFwd k fun f => { f with link := some link }) k r link pending
      | (t, link, .error e) => t.bind fun w => giveUp w k link e (some entry) r
    | _ => sendLast env w k r link

def forward (env : Surroundings) (w : World) (k : Nat) (r : LogRecord) : Trail :=
  if w.inside || (w.fwd k).config.isConflicting r.task then defer w k r
  else
    let u := { w with inside := true }
    let t := match (u.fwd k).link with
      | none => fallBack u k (u.previousSink k) r
      | some link => drainThenSend env u k r link (((u.fwd k).backlog.map Backlog.len).getD 0)
    t.within w.inside

/-- A record handed to the slot: a forwarder's sink defers or forwards it, a
local sink keeps it. -/
def dispatch (env : Surroundings) (w : World) (r : LogRecord) : Trail :=
  match w.slot.sink with
  | .buffering k => (emit w (.took k r)).bind fun w => defer w k r
  | .forwarding k => (emit w (.took k r)).bind fun w => forward env w k r
  | s => keep w s r

def drainTaken (env : Surroundings) (w : World) (k : Nat) (previous : Sink) (link : Link) :
    List Entry → Trail × List Entry × Option Net.LinkError
  | [] => (idle w, [], none)
  | e :: es =>
    let w := w.count k fun s => { s with drained := s.drained + 1 }
    match transmit env w k link e.task e.text with
    | (t, link, .ok ()) =>
      let rest := drainTaken env t.world k previous link es
      (rest.1.after t.effects, rest.2)
    | (t, _, .error err) =>
      let w := t.world.count k fun s => { s with failures := s.failures + 1 }
      ((fallBack w k previous (LogRecord.ofEntry e)).after t.effects, es, some err)

def announce (env : Surroundings) (w : World) (e : Event) : Trail :=
  match env.logging with
  | some lg => if lg.admits e then dispatchInside w ⟨lg.task, e.render lg.stamp⟩ else idle w
  | none => idle w

def announceAll (env : Surroundings) (w : World) : List Event → Trail
  | [] => idle w
  | e :: es => (announce env w e).bind fun w => announceAll env w es

def stop (env : Surroundings) (w : World) (k : Nat) : Trail :=
  let u := { w with inside := true }
  let t :=
    if (u.fwd k).state = .uninstalled then idle u
    else
      let u := u.updateFwd k fun f => { f with state := .restoring }
      let previous := u.previousSink k
      let (u, link) := u.takeLink k
      let (u, backlog) := u.takeBacklog k
      let (t, rest, failed) := match backlog, link with
        | some b, some l => drainTaken env u k previous l b.entries
        | some b, none => (idle u, b.entries, none)
        | none, _ => (idle u, [], none)
      t.bind fun u =>
        let u := match link with
          | some l => u.closeChannel l.channel
          | none => u
        (replay u k previous rest).bind fun u =>
          let t := match failed with
            | some e => notice u k previous e
            | none => idle u
          t.bind fun u =>
            let (u, restored) := (u.flush previous).restoreIf k previous
            announce env (u.settle k)
              (Event.say .info forwarderTarget "remote logging stopped" [⟨"restored", .flag restored⟩])
  t.within w.inside

def startBuffering (env : Surroundings) (w : World) (k capacity : Nat) :
    Trail × Except ForwarderError Unit :=
  let u := { w with inside := true }
  let state := (u.fwd k).state
  if state ≠ .uninstalled then ((idle u).within w.inside, .error (.invalidState state))
  else
    let u := u.updateFwd k fun f => { f with backlog := some (Backlog.new capacity) }
    let u := (u.install k (.buffering k)).updateFwd k fun f => { f with state := .earlyBuffering }
    let t := announce env u (Event.say .debug forwarderTarget "early log buffering started"
      [⟨"capacity", .unsigned capacity⟩])
    (t.within w.inside, .ok ())

def activate (env : Surroundings) (w : World) (k : Nat) (channel : Channel) (app : Option String)
    (raw mirror : Bool) : Trail × Except ForwarderError Unit :=
  let u := { w with inside := true }
  match (u.fwd k).state with
  | .active => ((idle u).within w.inside, .error .alreadyActive)
  | .restoring => ((idle u).within w.inside, .error (.invalidState .restoring))
  | _ =>
    let config := (u.fwd k).config
    let encoder := if raw then LineEncoder.raw else .syslog (Template.new config.hostname app config.facility)
    let u := u.updateFwd k fun f => { f with link := some ⟨channel, encoder⟩, mirror := mirror }
    let u := if ((u.fwd k).backlog).isNone then
        u.updateFwd k fun f => { f with backlog := some (Backlog.new config.bufferCapacity) }
      else u
    let u := (u.install k (.forwarding k)).updateFwd k fun f => { f with state := .active }
    let collector := match channel.destination with
      | some a => [⟨"collector", .text a.text⟩]
      | none => []
    let t := announce env u (Event.say .info forwarderTarget "remote logging started"
      (collector ++ [⟨"raw", .flag raw⟩, ⟨"mirror", .flag mirror⟩]))
    (t.within w.inside, .ok ())

def start (env : Surroundings) (w : World) (k : Nat) (host : String) (port : Nat)
    (app : Option String) (raw mirror : Bool) : Trail × Except ForwarderError Unit :=
  match (w.fwd k).state with
  | .active => (idle w, .error .alreadyActive)
  | .restoring => (idle w, .error (.invalidState .restoring))
  | _ =>
    let u := { w with inside := true }
    let config := (u.fwd k).config
    let (resolved, events) := (Net.Resolver.withLocalLink config.mdnsTimeoutMs).resolve env.machine host
    let t := announceAll env u events
    let (t, result) : Trail × Except ForwarderError Unit := match resolved with
      | .error e => (t, .error (.resolve host e))
      | .ok ip =>
        match Net.UdpLink.open? env.machine.network ip port ⟨config.sendTimeoutMs, config.retryIntervalMs⟩ with
        | .error e => (t, .error (.transport e))
        | .ok l =>
          let t := t.bind fun u => announce env u (Event.say .debug "logfwd::transport" "UDP transport opened"
            [⟨"collector", .text l.dest.text⟩])
          let a := activate env t.world k (.udp l) app raw mirror
          (a.1.after t.effects, a.2)
    (t.within w.inside, result)

end Trail

end SyslogRelay.Relay
