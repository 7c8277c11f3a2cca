import SyslogRelay.Relay.Sink
import SyslogRelay.Net.Link

namespace SyslogRelay.Relay

/-- A wire whose behaviour is set by hand. -/
structure ScriptedWire where
  attempts : Nat
  /-- The error every send fails with, while broken. -/
  fault : Option Net.LinkError
  /-- Outcomes of the next attempts, before `fault` decides (`none` for a delivery). -/
  planned : List (Option Net.LinkError)
  retriesPerSend : Nat
  retries : Nat
  /-- Records logged on every attempt, in order, before the send. -/
  onSend : List LogRecord
  payloads : List String
  /-- Times the sending end was closed. -/
  closes : Nat
  deriving DecidableEq, Repr

/-- A healthy scripted wire, or a broken one when `fault` is given. -/
def ScriptedWire.new (fault : Option Net.LinkError) (retriesPerSend : Nat) (onSend : List LogRecord) :
    ScriptedWire :=
  ⟨0, fault, [], retriesPerSend, 0, onSend, [], 0⟩

/-- The outcome of the next attempt: the first planned one, or `fault` once the
plan is used up. -/
def ScriptedWire.next (s : ScriptedWire) : Option Net.LinkError × ScriptedWire :=
  match s.planned with
  | o :: rest => (o, { s with planned := rest })
  | [] => (s.fault, s)

/-- The observed end of a channel. -/
inductive Wire
  | scripted (w : ScriptedWire)
  /-- A collector listening on `port`, or no collector at all. -/
  | listener (port : Option Nat) (received : List String)
  deriving DecidableEq, Repr

namespace Wire

/-- Payloads seen at this end. -/
def payloads : Wire → List String
  | scripted w => w.payloads
  | listener _ got => got

def attempts : Wire → Nat
  | scripted w => w.attempts
  | listener _ _ => 0

def closed : Wire → Bool
  | scripted w => w.closes != 0
  | listener _ _ => false

def retries : Wire → Nat
  | scripted w => w.retries
  | listener _ _ => 0

/-- A datagram arriving at `port`. -/
def deliver (port : Nat) (payload : String) : Wire → Wire
  | listener (some p) got => if p = port then listener (some p) (got ++ [payload]) else listener (some p) got
  | w => w

end Wire

end SyslogRelay.Relay
