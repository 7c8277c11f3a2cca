import SyslogRelay.Backlog

namespace SyslogRelay.Relay

/-- A console line and the task that logged it. -/
structure LogRecord where
  task : Option String
  text : String
  deriving DecidableEq, Repr, Inhabited

/-- The record of a backlog entry. -/
def LogRecord.ofEntry (e : Entry) : LogRecord := ⟨e.task, e.text⟩

/-- Who installed the slot's sink. -/
inductive Provenance
  | foreign
  /-- The forwarder with this index. -/
  | forwarder (k : Nat)
  deriving DecidableEq, Repr, Inhabited

def Provenance.isForwarder : Provenance → Bool
  | .foreign => false
  | .forwarder _ => true

/-- Debug text of a provenance, with `idText` naming each forwarder. -/
def Provenance.debugText (idText : Nat → String) : Provenance → String
  | .foreign => "Foreign"
  | .forwarder k => "Forwarder(" ++ idText k ++ ")"

/-- Debug text of a value that shows only the provenance of the slot's occupant. -/
def provenanceDebug (name : String) (p : Provenance) (idText : Nat → String) : String :=
  name ++ " \x7b provenance: " ++ p.debugText idText ++ ", .. \x7d"

/-- The sinks a slot can hold. -/
inductive Sink
  /-- The local console. -/
  | console
  /-- A sink that keeps every record it gets, by number. -/
  | recorder (i : Nat)
  /-- A recording sink that acts once, on its first record, by number. -/
  | reactive (i : Nat)
  /-- Forwarder `k`'s sink while it only buffers. -/
  | buffering (k : Nat)
  /-- Forwarder `k`'s sink while it forwards. -/
  | forwarding (k : Nat)
  deriving DecidableEq, Repr, Inhabited

/-- The installed sink and who installed it. -/
structure Installed where
  sink : Sink
  provenance : Provenance
  deriving DecidableEq, Repr, Inhabited

namespace Installed

/-- Put `sink` in place for `provenance`, answering what was there. -/
def swap (cur : Installed) (sink : Sink) (provenance : Provenance) : Installed × Installed :=
  (⟨sink, provenance⟩, cur)

/-- Give the slot back to `previous`, as a foreign sink, if forwarder `k` installed
the current one. Answers whether it did. -/
def restoreIf (cur : Installed) (k : Nat) (previous : Sink) : Installed × Bool :=
  if cur.provenance = .forwarder k then (⟨previous, .foreign⟩, true) else (cur, false)

def debugText (cur : Installed) (idText : Nat → String) : String :=
  provenanceDebug "Installed" cur.provenance idText

theorem restoreIf_foreign (cur : Installed) (k : Nat) (previous : Sink)
    (h : cur.provenance = .foreign) : cur.restoreIf k previous = (cur, false) := by
  simp [restoreIf, h]

end Installed

end SyslogRelay.Relay
