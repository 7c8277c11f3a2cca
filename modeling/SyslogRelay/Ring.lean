import SyslogRelay.Backlog

namespace SyslogRelay

open SyslogRelay.Text

/-- Slots used as a ring: `count` entries from slot `start` on. -/
structure Ring where
  slots : Array (Option Entry)
  start : Nat
  count : Nat
  deriving DecidableEq, Repr

namespace Ring

/-- The slot of the entry `logical` places after the oldest. -/
def index (r : Ring) (logical : Nat) : Nat := (r.start + logical) % r.slots.size

/-- What slot `i` holds. -/
def slot (r : Ring) (i : Nat) : Option Entry := r.slots.getD i none

/-- The newest entry, as its slot holds it. -/
def newest (r : Ring) : Option Entry :=
  if r.count = 0 then none else r.slot (r.index (r.count - 1))

/-- Put `e` in the newest entry's slot. -/
def setNewest (r : Ring) (e : Entry) : Ring :=
  { r with slots := r.slots.setIfInBounds (r.index (r.count - 1)) (some e) }

/-- Take what the oldest entry's slot holds out of it, and move on. -/
def popFront (r : Ring) : Ring × Option Entry :=
  if r.count = 0 then (r, none)
  else
    (⟨r.slots.setIfInBounds r.start none, (r.start + 1) % r.slots.size, r.count - 1⟩, r.slot r.start)

/-- Put `e` in the slot after the newest entry. -/
def pushBack (r : Ring) (e : Entry) : Ring :=
  { r with slots := r.slots.setIfInBounds (r.index r.count) (some e), count := r.count + 1 }

/-- Take out the oldest entry until a slot gives nothing; `n` bounds the rounds,
and the count of entries is enough, since each round that gives an entry
lowers the count by one and a ring with no entries gives nothing. -/
def popAll : Nat → Ring → Ring
  | 0, r => r
  | n + 1, r =>
    match r.popFront with
    | (r', some _) => popAll n r'
    | (r', none) => r'

end Ring

/-- A store of console lines kept in a ring of `capacity` slots, with the number
of entries pushed out so far. -/
structure LineBuffer where
  ring : Ring
  capacity : Nat
  evicted : Nat
  deriving DecidableEq, Repr

namespace LineBuffer

/-- A line buffer with `capacity` empty slots. -/
def new (capacity : Nat) : LineBuffer := ⟨⟨Array.replicate capacity none, 0, 0⟩, capacity, 0⟩

def len (lb : LineBuffer) : Nat := lb.ring.count

/-- Start a new entry, taking out the oldest when every slot is taken. -/
def store (lb : LineBuffer) (task : Option String) (text : String) : LineBuffer × AppendOutcome :=
  let entry : Entry := ⟨task, cutBytes text maxEntryBytes⟩
  if lb.ring.count = lb.capacity then
    ({ lb with ring := lb.ring.popFront.1.pushBack entry, evicted := lb.evicted + 1 }, .evicted)
  else ({ lb with ring := lb.ring.pushBack entry }, .appended)

/-- Add text from a task: extend the newest entry in its slot if it is open for
the task, otherwise start a new entry. -/
def append (lb : LineBuffer) (task : Option String) (text : String) : LineBuffer × AppendOutcome :=
  if lb.capacity = 0 ∨ text.isEmpty then (lb, .disabled)
  else
    match lb.ring.newest with
    | some newest =>
      if newest.isOpenFor task then
        let room := maxEntryBytes - newest.text.utf8ByteSize
        ({ lb with ring := lb.ring.setNewest { newest with text := newest.text ++ cutBytes text room } },
          .coalesced)
      else lb.store task text
    | none => lb.store task text

/-- Take out the oldest entry. -/
def drainOne (lb : LineBuffer) : LineBuffer × Option Entry :=
  let (ring, e) := lb.ring.popFront
  ({ lb with ring := ring }, e)

/-- Take out every entry and start the ring over at slot zero, answering how
many entries there were. -/
def clear (lb : LineBuffer) : LineBuffer × Nat :=
  ({ lb with ring := { lb.ring.popAll lb.ring.count with start := 0 } }, lb.ring.count)

end LineBuffer

end SyslogRelay
