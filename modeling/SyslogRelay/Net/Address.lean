namespace SyslogRelay.Net

/-- An IPv4 address. -/
structure Ipv4 where
  a : UInt8
  b : UInt8
  c : UInt8
  d : UInt8
  deriving DecidableEq, Repr, Inhabited

/-- An IPv6 address by its eight 16-bit groups, most significant first. -/
structure Ipv6 where
  groups : List UInt16
  deriving DecidableEq, Repr, Inhabited

/-- An IP address of either family. -/
inductive IpAddr
  | v4 (a : Ipv4)
  | v6 (a : Ipv6)
  deriving DecidableEq, Repr, Inhabited

/-- An address and a port. -/
structure SocketAddr where
  ip : IpAddr
  port : Nat
  deriving DecidableEq, Repr, Inhabited

namespace Ipv4

def octets (x : Ipv4) : List UInt8 := [x.a, x.b, x.c, x.d]

def localhost : Ipv4 := ⟨127, 0, 0, 1⟩

def unspecified : Ipv4 := ⟨0, 0, 0, 0⟩

def text (x : Ipv4) : String := ".".intercalate (x.octets.map fun o => toString o.toNat)

/-- Addresses of 127.0.0.0/8. -/
def isLoopback (x : Ipv4) : Bool := x.a = 127

end Ipv4

namespace Ipv6

def localhost : Ipv6 := ⟨[0, 0, 0, 0, 0, 0, 0, 1]⟩

def unspecified : Ipv6 := ⟨[0, 0, 0, 0, 0, 0, 0, 0]⟩

/-- The IPv4 address of an IPv4-mapped address `::ffff:a.b.c.d`. -/
def mapped? (x : Ipv6) : Option Ipv4 :=
  match x.groups with
  | [0, 0, 0, 0, 0, 0xffff, g, h] =>
    some ⟨(g >>> 8).toUInt8, (g &&& 0xff).toUInt8, (h >>> 8).toUInt8, (h &&& 0xff).toUInt8⟩
  | _ => none

/-- Lowercase hexadecimal digits of a group, without leading zeros. -/
def groupText (g : UInt16) : String := String.ofList (Nat.toDigits 16 g.toNat)

/-- The longest run of zero groups as (start, length); the first of equal runs. -/
def longestZeros (gs : List UInt16) : Nat × Nat :=
  let step (acc : (Nat × Nat) × (Nat × Nat) × Nat) (g : UInt16) :=
    let (best, (curStart, curLen), i) := acc
    if g = 0 then
      let cur := if curLen = 0 then (i, 1) else (curStart, curLen + 1)
      (if cur.2 > best.2 then cur else best, cur, i + 1)
    else (best, (0, 0), i + 1)
  (gs.foldl step ((0, 0), (0, 0), 0)).1

def text (x : Ipv6) : String :=
  match x.mapped? with
  | some v4 => "::ffff:" ++ v4.text
  | none =>
    let (start, len) := longestZeros x.groups
    let part (gs : List UInt16) := ":".intercalate (gs.map groupText)
    if len > 1 then part (x.groups.take start) ++ "::" ++ part (x.groups.drop (start + len))
    else part x.groups

def isLoopback (x : Ipv6) : Bool := x = localhost

end Ipv6

namespace IpAddr

def text : IpAddr → String
  | v4 a => a.text
  | v6 a => a.text

def isIpv4 : IpAddr → Bool
  | v4 _ => true
  | v6 _ => false

def isLoopback : IpAddr → Bool
  | v4 a => a.isLoopback
  | v6 a => a.isLoopback

end IpAddr

/-- An IPv6 socket address is bracketed: `[::1]:514`. -/
def SocketAddr.text (s : SocketAddr) : String :=
  match s.ip with
  | .v4 a => a.text ++ ":" ++ toString s.port
  | .v6 a => "[" ++ a.text ++ "]:" ++ toString s.port

/-! ### Reading -/

/-- The leading run of characters with a digit value in `radix`, and the rest. -/
def digitRun (radix : Nat) (cs : List Char) : List Nat × List Char :=
  let value (c : Char) : Option Nat :=
    if '0' ≤ c ∧ c ≤ '9' then some (c.toNat - 48)
    else if radix = 16 ∧ 'a' ≤ c ∧ c ≤ 'f' then some (c.toNat - 87)
    else if radix = 16 ∧ 'A' ≤ c ∧ c ≤ 'F' then some (c.toNat - 55)
    else none
  let ds := (cs.takeWhile fun c => (value c).isSome).filterMap value
  (ds, cs.drop ds.length)

/-- A number of at most `maxDigits` digits and at most `max`; a leading zero
only when `zeroPrefix` allows it or the number is `0`. -/
def readNumber (radix maxDigits max : Nat) (zeroPrefix : Bool) (cs : List Char) :
    Option (Nat × List Char) :=
  let (ds, rest) := digitRun radix cs
  let n := ds.foldl (fun acc d => acc * radix + d) 0
  if ds.isEmpty ∨ ds.length > maxDigits ∨ n > max then none
  else if !zeroPrefix ∧ ds.head? = some 0 ∧ ds.length > 1 then none
  else some (n, rest)

/-- An IPv4 address at the start of the text. -/
def readIpv4 (cs : List Char) : Option (Ipv4 × List Char) := do
  let (a, cs) ← readNumber 10 3 255 false cs
  let cs ← match cs with | '.' :: r => some r | _ => none
  let (b, cs) ← readNumber 10 3 255 false cs
  let cs ← match cs with | '.' :: r => some r | _ => none
  let (c, cs) ← readNumber 10 3 255 false cs
  let cs ← match cs with | '.' :: r => some r | _ => none
  let (d, cs) ← readNumber 10 3 255 false cs
  pure (⟨a.toUInt8, b.toUInt8, c.toUInt8, d.toUInt8⟩, cs)

/-- A colon before every group but the first. -/
def separated (i : Nat) (cs : List Char) : Option (List Char) :=
  if i = 0 then some cs
  else match cs with
    | ':' :: r => some r
    | _ => none

/-- Up to `limit` groups, the `i`-th onwards; an embedded IPv4 address may take
the place of two groups when at least two are left. Answers the groups, whether
they ended in an IPv4 address, and the rest of the text. -/
def readGroups (limit : Nat) : Nat → Nat → List Char → List UInt16 × Bool × List Char
  | 0, _, cs => ([], false, cs)
  | fuel + 1, i, cs =>
    if i ≥ limit then ([], false, cs)
    else
      let embedded :=
        if i + 1 < limit then (separated i cs).bind readIpv4 else none
      match embedded with
      | some (v4, rest) =>
        ([(v4.a.toUInt16 <<< 8) ||| v4.b.toUInt16, (v4.c.toUInt16 <<< 8) ||| v4.d.toUInt16], true, rest)
      | none =>
        match (separated i cs).bind (readNumber 16 4 0xffff true) with
        | some (g, rest) =>
          let (more, v4, rest) := readGroups limit fuel (i + 1) rest
          (g.toUInt16 :: more, v4, rest)
        | none => ([], false, cs)

/-- An IPv6 address at the start of the text. -/
def readIpv6 (cs : List Char) : Option (Ipv6 × List Char) := do
  let (head, headV4, cs) := readGroups 8 8 0 cs
  if head.length = 8 then return (⟨head⟩, cs)
  if headV4 then none
  let cs ← match cs with | ':' :: ':' :: r => some r | _ => none
  let (tail, _, cs) := readGroups (7 - head.length) 8 0 cs
  pure (⟨head ++ List.replicate (8 - head.length - tail.length) 0 ++ tail⟩, cs)

/-- Read a whole text as an IP address: IPv4 if it starts as one, else IPv6. -/
def IpAddr.parse? (s : String) : Option IpAddr :=
  let cs := s.toList
  match readIpv4 cs with
  | some (a, rest) => if rest.isEmpty then some (.v4 a) else none
  | none =>
    match readIpv6 cs with
    | some (a, []) => some (.v6 a)
    | _ => none

end SyslogRelay.Net
