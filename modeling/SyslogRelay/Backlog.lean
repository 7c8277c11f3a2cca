import SyslogRelay.Text.Utf8

/-!
A bounded first-in first-out store of console lines waiting to be sent. An open
line takes the next text of its task; a full store pushes its oldest entry out.
-/

namespace SyslogRelay

open SyslogRelay.Text

/-- Longest text an entry holds, in bytes. -/
def maxEntryBytes : Nat := 1024

/-- A stored console line and the task that logged it. -/
structure Entry where
  task : Option String
  text : String
  deriving DecidableEq, Repr

/-- An entry still takes text from `task`: it has no line feed at its end yet and
was logged by the same task (an absent task differs from an empty one). -/
def Entry.isOpenFor (e : Entry) (task : Option String) : Bool :=
  !(e.text.toList.getLast? == some '\n') && e.task == task

/-- What an append did. -/
inductive AppendOutcome
  | appended
  | coalesced
  | evicted
  | disabled
  deriving DecidableEq, Repr

def AppendOutcome.isStored (o : AppendOutcome) : Bool := o != .disabled

/-- The store: entries oldest first, and how many were pushed out so far. -/
structure Backlog where
  capacity : Nat
  entries : List Entry
  evicted : Nat
  deriving DecidableEq, Repr

namespace Backlog

def new (capacity : Nat) : Backlog := ⟨capacity, [], 0⟩

def len (b : Backlog) : Nat := b.entries.length

def isEmpty (b : Backlog) : Bool := b.entries.isEmpty

/-- Start a new entry, pushing out the oldest when the store is full. -/
def push (b : Backlog) (task : Option String) (text : String) : Backlog × AppendOutcome :=
  let entry : Entry := ⟨task, cutBytes text maxEntryBytes⟩
  if b.entries.length = b.capacity then
    ({ b with entries := b.entries.tail ++ [entry], evicted := b.evicted + 1 }, .evicted)
  else ({ b with entries := b.entries ++ [entry] }, .appended)

/-- Add text from a task: extend the newest entry if it is open for the task,
otherwise start a new entry, pushing out the oldest when full. -/
def append (b : Backlog) (task : Option String) (text : String) : Backlog × AppendOutcome :=
  if b.capacity = 0 ∨ text.isEmpty then (b, .disabled)
  else
    match b.entries.getLast? with
    | some newest =>
      if newest.isOpenFor task then
        let room := maxEntryBytes - newest.text.utf8ByteSize
        let grown := { newest with text := newest.text ++ cutBytes text room }
        ({ b with entries := b.entries.dropLast ++ [grown] }, .coalesced)
      else b.push task text
    | none => b.push task text

/-- Take out the oldest entry. -/
def drainOne (b : Backlog) : Backlog × Option Entry :=
  match b.entries with
  | [] => (b, none)
  | e :: rest => ({ b with entries := rest }, some e)

/-- Drop every entry, answering how many there were. -/
def clear (b : Backlog) : Backlog × Nat :=
  ({ b with entries := [] }, b.entries.length)

/-- Debug text: capacity, length and evictions. -/
def debugText (b : Backlog) : String :=
  "LineBuffer \x7b capacity: " ++ toString b.capacity ++ ", len: " ++ toString b.len ++
    ", evicted: " ++ toString b.evicted ++ " \x7d"

theorem drainOne_entries (b : Backlog) : (b.drainOne).1.entries = b.entries.tail := by
  unfold drainOne
  split <;> simp_all

end Backlog

end SyslogRelay
