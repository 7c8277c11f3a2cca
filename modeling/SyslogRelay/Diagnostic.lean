import SyslogRelay.Text.BoundedLine
import SyslogRelay.Decimal.Binary64

/-!
Diagnostic events and their console lines of at most 200 bytes:

    I (1532) player::net: connected peer=10.0.0.4
-/

namespace SyslogRelay.Diagnostic

open SyslogRelay.Text
open SyslogRelay.Decimal

/-- Importance of an event, most severe first. -/
inductive Level
  | error
  | warn
  | info
  | debug
  | trace
  deriving DecidableEq, Repr, Inhabited

namespace Level

/-- The letter that starts an event's console line. -/
def marker : Level → Char
  | error => 'E'
  | warn => 'W'
  | info => 'I'
  | debug => 'D'
  | trace => 'V'

def name : Level → String
  | error => "error"
  | warn => "warn"
  | info => "info"
  | debug => "debug"
  | trace => "trace"

def all : List Level := [error, warn, info, debug, trace]

def ofName? (s : String) : Option Level := all.find? (fun l => l.name = s)

/-- Verbosity: the more detailed the level, the larger. -/
def rank : Level → Nat
  | error => 1
  | warn => 2
  | info => 3
  | debug => 4
  | trace => 5

/-- An event of level `l` passes a filter set to `max` when it is no more detailed. -/
def admits (max l : Level) : Bool := l.rank ≤ max.rank

theorem ofName?_name (l : Level) : ofName? l.name = some l := by
  cases l <;> rfl

end Level

/-- The value of an event field. -/
inductive Value
  /-- Text written as it is. -/
  | text (s : String)
  /-- Text given as parts, as a formatted message is: each part is written on its own. -/
  | parts (ps : List String)
  /-- Text written in quotes, with escapes. -/
  | quotedText (s : String)
  | signed (i : Int)
  | unsigned (n : Nat)
  | flag (b : Bool)
  | float (x : Binary64)
  /-- A field declared without a value; it is not written. -/
  | unset
  deriving Repr

namespace Value

/-- The pieces a writer receives for the value. -/
def pieces : Value → List String
  | text s => [s]
  | parts ps => ps
  | quotedText s => quotedPieces s
  | signed i => if i < 0 then ["-", toString i.natAbs] else [toString i.natAbs]
  | unsigned n => [toString n]
  | flag b => [if b then "true" else "false"]
  | float x => [render debugLayout x]
  | unset => []

def isSet : Value → Bool
  | unset => false
  | _ => true

end Value

/-- A named field of an event. -/
structure Field where
  name : String
  value : Value
  deriving Repr

/-- A diagnostic event. -/
structure Event where
  level : Level
  target : String
  fields : List Field
  deriving Repr

/-- Bound, in bytes, of an event's console line. -/
def lineCapacity : Nat := 200

namespace Event

/-- An event with a message and further fields. -/
def say (level : Level) (target message : String) (fields : List Field) : Event :=
  ⟨level, target, ⟨"message", .text message⟩ :: fields⟩

/-- The message: the values of every field named `message`, in order. -/
def messageLine (e : Event) : BoundedLine :=
  (e.fields.filter fun f => f.name = "message").foldl
    (fun b f => b.writeAll f.value.pieces) (BoundedLine.empty lineCapacity)

/-- The other fields, each written as ` name=value`. -/
def fieldsLine (e : Event) : BoundedLine :=
  (e.fields.filter fun f => f.name ≠ "message" && f.value.isSet).foldl
    (fun b f => b.writeAll ([" ", f.name, "="] ++ f.value.pieces)) (BoundedLine.empty lineCapacity)

/-- The console line of an event; `stamp` is the time since logging began, in
milliseconds, as it is to be written. -/
def line (e : Event) (stamp : String) : BoundedLine :=
  (BoundedLine.empty lineCapacity
    |>.writeAll [String.singleton e.level.marker, " (", stamp, ") ", e.target, ": ",
      e.messageLine.text, e.fieldsLine.text]).terminate

/-- The text of an event's console line. -/
def render (e : Event) (stamp : String) : String := (e.line stamp).text

end Event

end SyslogRelay.Diagnostic
