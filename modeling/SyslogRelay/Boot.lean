namespace SyslogRelay

/-- When a forwarder marks the boot as good. -/
inductive BootMarkPolicy
  /-- On the first datagram it sends. -/
  | firstTransmit
  /-- Only when asked to. -/
  | manual
  deriving DecidableEq, Repr, Inhabited

namespace BootMarkPolicy

def name : BootMarkPolicy → String
  | firstTransmit => "first_transmit"
  | manual => "manual"

def all : List BootMarkPolicy := [firstTransmit, manual]

def ofName? (s : String) : Option BootMarkPolicy := all.find? (fun p => p.name = s)

end BootMarkPolicy

/-- How often each marker created so far has been told. -/
structure Markers where
  calls : List Nat
  deriving DecidableEq, Repr

namespace Markers

def empty : Markers := ⟨[]⟩

/-- A new marker, numbered after the existing ones. -/
def create (ms : Markers) : Markers × Nat := (⟨ms.calls ++ [0]⟩, ms.calls.length)

/-- Tell a marker once more. -/
def tell (ms : Markers) (k : Nat) : Markers := ⟨ms.calls.modify k (· + 1)⟩

end Markers

/-- A one-shot boot flag with an optional marker. -/
structure BootSignal where
  fired : Bool
  marker : Option Nat
  deriving DecidableEq, Repr

namespace BootSignal

def new : BootSignal := ⟨false, none⟩

/-- Attach a marker; only the first one sticks. Answers whether it stuck. -/
def setMarker (s : BootSignal) (k : Nat) : BootSignal × Bool :=
  match s.marker with
  | none => ({ s with marker := some k }, true)
  | some _ => (s, false)

/-- Fire the flag. Answers true only the first time, together with the marker to
tell. -/
def mark (s : BootSignal) : BootSignal × Bool × Option Nat :=
  if s.fired then (s, false, none) else ({ s with fired := true }, true, s.marker)

def debugText (s : BootSignal) : String :=
  "BootSignal \x7b fired: " ++ toString s.fired ++ ", has_marker: " ++ toString s.marker.isSome ++ " \x7d"

theorem mark_mark (s : BootSignal) : ((s.mark).1.mark).2.1 = false := by
  unfold mark
  split <;> simp_all

end BootSignal

end SyslogRelay
