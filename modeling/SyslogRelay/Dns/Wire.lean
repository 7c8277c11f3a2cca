import SyslogRelay.Dns.Name

namespace SyslogRelay.Dns

/-- A message being read: its bytes. -/
abbrev Bytes := Array UInt8

def short : Fault := ⟨"unexpected end of input"⟩

def byteAt (msg : Bytes) (pos : Nat) : Except Fault (UInt8 × Nat) :=
  match msg[pos]? with
  | some b => .ok (b, pos + 1)
  | none => .error short

def u16At (msg : Bytes) (pos : Nat) : Except Fault (Nat × Nat) :=
  match msg[pos]?, msg[pos + 1]? with
  | some a, some b => .ok (a.toNat * 256 + b.toNat, pos + 2)
  | _, _ => .error short

def u32At (msg : Bytes) (pos : Nat) : Except Fault (Nat × Nat) := do
  let (hi, pos) ← u16At msg pos
  let (lo, pos) ← u16At msg pos
  pure (hi * 65536 + lo, pos)

/-- `n` bytes from a position. -/
def sliceAt (msg : Bytes) (pos n : Nat) : Except Fault (List UInt8 × Nat) :=
  if pos + n ≤ msg.size then .ok ((msg.extract pos (pos + n)).toList, pos + n) else .error short

/-- A length byte and that many bytes. -/
def characterData (msg : Bytes) (pos : Nat) : Except Fault (List UInt8 × Nat) := do
  let (n, pos) ← byteAt msg pos
  sliceAt msg pos n.toNat

/-- Whether a position reaches the limit a name read through a pointer must stay below. -/
def reachesLimit (limit : Option Nat) (pos : Nat) : Bool :=
  match limit with
  | some m => pos ≥ m
  | none => false

/-- The name of the labels read, refused when its plain wire form would take
more than 255 bytes. -/
def finishName (labels : List (List UInt8)) (pos : Nat) : Except Fault (Name × Nat) :=
  let size := labels.length + labels.foldr (fun l total => l.length + total) 0 + 1
  if size > 255 then .error ⟨"name too long"⟩ else .ok (⟨labels⟩, pos)

/-- Read the labels of a name that starts at `start`, from `pos` on, after the
labels `acc`; `pointed` reads the rest of the name at the place a pointer leads
to. At most `steps` labels are read. -/
def labelsFrom (msg : Bytes) (start : Nat) (limit : Option Nat) (pointed : Nat → Except Fault (Name × Nat)) :
    Nat → List (List UInt8) → Nat → Except Fault (Name × Nat)
  | 0, _, _ => .error ⟨"name too long"⟩
  | steps + 1, acc, pos =>
    if reachesLimit limit pos then .error ⟨"label overlaps"⟩
    else
      match msg[pos]? with
      | none => .error short
      | some 0 => finishName acc (pos + 1)
      | some b =>
        if b &&& 0xC0 = 0xC0 then do
          let (word, after) ← u16At msg pos
          let target := word % 0x4000
          if target ≥ start then throw ⟨"pointer not prior to label"⟩
          let (rest, _) ← pointed target
          finishName (acc ++ rest.labels) after
        else if b &&& 0xC0 = 0 then do
          let (l, after) ← characterData msg pos
          labelsFrom msg start limit pointed steps (acc ++ [l]) after
        else .error ⟨"unrecognized label code"⟩

/-- Read a name starting at `start`. A name reached through a pointer is read
with `limit`, the start of the name that pointed to it: no part of it may reach
that far. -/
def readName (msg : Bytes) : Nat → Nat → Option Nat → Except Fault (Name × Nat)
  | 0, _, _ => .error ⟨"name too deep"⟩
  | fuel + 1, start, limit =>
    labelsFrom msg start limit (fun target => readName msg fuel target (some start)) (msg.size + 1) [] start

/-- Read a name at a position of the message. -/
def nameAt (msg : Bytes) (pos : Nat) : Except Fault (Name × Nat) := readName msg (msg.size + 1) pos none

end SyslogRelay.Dns
