import SyslogRelay.Severity
import SyslogRelay.Text.Ansi
import SyslogRelay.Text.BoundedLine

/-!
RFC 5424 records for console lines:

    <PRI>1 - HOSTNAME APP-NAME TASK - - MSG
-/

namespace SyslogRelay.Record

open SyslogRelay.Text

/-- The nil value of RFC 5424. -/
def nilValue : String := "-"

/-- Byte size of the bounded fallback record. -/
def fallbackCapacity : Nat := 1088

/-- Bytes reserved for a record beyond header, task and payload: `<PRI>` and
the separators. -/
def recordOverhead : Nat := 16

/-- A printable ASCII character other than space, as header fields allow. -/
def isHeaderChar (c : Char) : Bool := 0x21 ≤ c.toNat && c.toNat ≤ 0x7E

/-- The pieces of a header field: nil when absent or empty, otherwise each
character, with characters that a header field does not allow replaced by `_`. -/
def headerPieces : Option String → List String
  | none => [nilValue]
  | some s =>
    if s.isEmpty then [nilValue]
    else s.toList.map (fun c => String.singleton (if isHeaderChar c then c else '_'))

/-- A header field as text. -/
def headerField (o : Option String) : String := String.join (headerPieces o)

/-- The task field: nil when absent or empty, otherwise each byte of its UTF-8
encoding, a byte outside printable ASCII becoming `_`. -/
def taskField : Option String → String
  | none => nilValue
  | some t =>
    if t.isEmpty then nilValue
    else String.ofList ((utf8Bytes t).map (fun b => if 0x21 ≤ b.toNat ∧ b.toNat ≤ 0x7E then Char.ofNat b.toNat else '_'))

/-- Byte length of the task field as counted before the record is written: the
task's own length, or that of the nil value when the task is absent or empty. -/
def taskLen : Option String → Nat
  | some t => if t.isEmpty then nilValue.utf8ByteSize else t.utf8ByteSize
  | none => nilValue.utf8ByteSize

/-- Severity of a raw console line, judged on the first four bytes written
from its escape-free runs, each run cut on its own. -/
def severityOfRaw (raw : String) : Severity :=
  Severity.ofLine ((BoundedLine.empty 4).writeAll (segments raw)).text

/-- Per-installation record template. -/
structure Template where
  facility : Facility
  /-- Everything between `<PRI>` and the task: `1 - HOST APP `. -/
  header : String
  deriving DecidableEq, Repr

namespace Template

def new (hostname appName : Option String) (facility : Facility) : Template :=
  ⟨facility, "1 " ++ nilValue ++ " " ++ headerField hostname ++ " " ++ headerField appName ++ " "⟩

/-- Bytes reserved for a record before it is written, the raw line's length
standing for the payload's. -/
def reservation (t : Template) (raw : String) (task : Option String) : Nat :=
  t.header.utf8ByteSize + taskLen task + raw.utf8ByteSize + recordOverhead

/-- The message part: the escape-free text without trailing line ends. -/
def message (raw : String) : String :=
  String.ofList (dropLineEnds (String.join (segments raw)).toList)

/-- Encode one console line. -/
def encode (t : Template) (raw : String) (task : Option String) : String :=
  let pri := t.facility.priority (severityOfRaw raw)
  "<" ++ toString pri ++ ">" ++ t.header ++ taskField task ++ " - - " ++ message raw

/-- The bounded record: nil host and application, payload and record each cut
to 1088 bytes. -/
def encodeFallback (t : Template) (raw : String) (task : Option String) : BoundedLine :=
  let payload := ((BoundedLine.empty fallbackCapacity).writeAll (segments raw)).trimLineEnds
  let pri := t.facility.priority (Severity.ofLine payload.text)
  (BoundedLine.empty fallbackCapacity).writeAll
    (["<", toString pri, ">1 - - - "] ++ headerPieces task ++ [" - - ", payload.text])

end Template

/-- How an installation turns console lines into datagrams. -/
inductive LineEncoder
  /-- Structured RFC 5424 records. -/
  | syslog (t : Template)
  /-- The console text unchanged. -/
  | raw
  deriving DecidableEq, Repr

def LineEncoder.encode : LineEncoder → String → Option String → String
  | .syslog t, text, task => t.encode text task
  | .raw, text, _ => text

end SyslogRelay.Record
