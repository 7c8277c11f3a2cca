import SyslogRelay.Dns.RecordData

/-!
DNS messages (RFC 1035) as far as a one-shot multicast lookup of `<host>.local`
needs them. Reading is strict: any fault rejects the whole message.
-/

namespace SyslogRelay.Dns

/-- A resource record as far as lookups need it. -/
structure Record where
  name : Name
  type : Nat
  /-- The address of an A record with data. -/
  address : Option Net.Ipv4
  deriving DecidableEq, Repr

/-- Read one resource record. -/
def recordAt (msg : Bytes) (pos : Nat) : Except Fault (Record × Nat) := do
  let (name, pos) ← nameAt msg pos
  let (type, pos) ← u16At msg pos
  if type = typeOpt ∧ !name.labels.isEmpty then throw ⟨"OPT record name is not root"⟩
  let (_, pos) ← u16At msg pos
  let (_, pos) ← u32At msg pos
  let (length, pos) ← u16At msg pos
  if length > msg.size - pos then throw ⟨"rdata length too large for remaining bytes"⟩
  if length = 0 then return (⟨name, type, none⟩, pos)
  let (address, pos) ← recordData msg type length pos
  pure (⟨name, type, address⟩, pos)

/-- Read `count` records from a position. -/
def recordsAt (msg : Bytes) : Nat → Nat → Except Fault (List Record × Nat)
  | 0, pos => .ok ([], pos)
  | count + 1, pos => do
    let (r, pos) ← recordAt msg pos
    let (rs, pos) ← recordsAt msg count pos
    pure (r :: rs, pos)

/-- A question: a name, a type and a class. -/
def questionAt (msg : Bytes) (pos : Nat) : Except Fault (Unit × Nat) := do
  let (_, pos) ← nameAt msg pos
  let (_, pos) ← u32At msg pos
  pure ((), pos)

def questionsAt (msg : Bytes) : Nat → Nat → Except Fault (Unit × Nat)
  | 0, pos => .ok ((), pos)
  | count + 1, pos => do
    let (_, pos) ← questionAt msg pos
    questionsAt msg count pos

/-- A decoded message: whether it is a response, and its answer, authority and
additional records (OPT records set apart). -/
structure Message where
  isResponse : Bool
  answers : List Record
  authority : List Record
  additional : List Record
  deriving DecidableEq, Repr

/-- Decode a whole message. -/
def Message.decode? (bytes : List UInt8) : Except Fault Message := do
  let msg := bytes.toArray
  let (_, pos) ← u16At msg 0
  let (flags, pos) ← byteAt msg pos
  let opcode := (flags.toNat / 8) % 16
  unless opcode = 0 ∨ opcode = 2 ∨ opcode = 4 ∨ opcode = 5 do
    throw ⟨"unknown OpCode: " ++ toString opcode⟩
  let (_, pos) ← byteAt msg pos
  let (qd, pos) ← u16At msg pos
  let (an, pos) ← u16At msg pos
  let (ns, pos) ← u16At msg pos
  let (ar, pos) ← u16At msg pos
  let (_, pos) ← questionsAt msg qd pos
  let (answers, pos) ← recordsAt msg an pos
  let (authority, pos) ← recordsAt msg ns pos
  let (extra, _) ← recordsAt msg ar pos
  let opts := extra.filter (·.type = typeOpt)
  if opts.length > 1 then throw ⟨"more than one edns record present"⟩
  pure ⟨flags.toNat ≥ 128, answers, authority, extra.filter (·.type ≠ typeOpt)⟩

/-- What answer selection takes from a DNS library: reading a message from a
datagram, reading a name from its text, and comparing two names. -/
structure Codec where
  decode : List UInt8 → Except Fault Message
  readName : String → Except Fault Name
  sameName : Name → Name → Bool

/-- The library as this one reads: strict messages and names of ASCII labels. -/
def Codec.standard : Codec := ⟨Message.decode?, Name.ofText?, Name.sameAs⟩

/-- The text of the name asked about a host on the local link: the host without
trailing dots, under `local`. -/
def localText (host : String) : String :=
  String.ofList (host.toList.reverse.dropWhile (· = '.')).reverse ++ ".local."

/-- The query for the address of `<host>.local`, asking for a unicast answer. -/
def buildQueryWith (codec : Codec) (id : Nat) (host : String) : Except Fault (List UInt8) := do
  let name ← codec.readName (localText host)
  if name.wireSize > 255 then throw ⟨"name label data exceed 255: " ++ toString name.wireSize⟩
  pure ([(id / 256).toUInt8, (id % 256).toUInt8, 0, 0, 0, 1, 0, 0, 0, 0, 0, 0] ++
    name.wire ++ [0, 1, 0x80, 1])

/-- The address a response gives for `<host>.local`: the first A record with that
name among the answers, then the authority and additional records. -/
def findAddressWith (codec : Codec) (bytes : List UInt8) (host : String) : Option Net.Ipv4 :=
  match codec.decode bytes, codec.readName (localText host) with
  | .ok m, .ok wanted =>
    if !m.isResponse then none
    else
      ((m.answers ++ m.authority ++ m.additional).filter
        fun r => r.type = typeA && codec.sameName r.name wanted).findSome? (·.address)
  | _, _ => none

def buildQuery (id : Nat) (host : String) : Except Fault (List UInt8) := buildQueryWith .standard id host

def findAddress (bytes : List UInt8) (host : String) : Option Net.Ipv4 := findAddressWith .standard bytes host

end SyslogRelay.Dns
