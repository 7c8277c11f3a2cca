import SyslogRelay.Dns.Wire
import SyslogRelay.Dns.Caa
import SyslogRelay.Net.Address

namespace SyslogRelay.Dns

/-- How the data of a record type is laid out. -/
inductive Layout
  /-- Four bytes of an IPv4 address. -/
  | address
  /-- Exactly `n` bytes. -/
  | fixed (n : Nat)
  /-- `skip` bytes, then a name. -/
  | named (skip : Nat)
  /-- Two names, then twenty bytes. -/
  | authority
  /-- Character strings filling the data. -/
  | texts
  /-- Two character strings. -/
  | pair
  /-- Four bytes, alphanumeric flags, two character strings and a name. -/
  | namingAuthority
  /-- Options: code, length and bytes each. -/
  | options
  /-- At least `n` bytes. -/
  | atLeast (n : Nat)
  /-- A flag byte, a tag of 1 to 15 bytes, a value (CAA). -/
  | caa
  /-- Two bytes, a name, parameters in increasing order of their keys (SVCB). -/
  | service
  /-- A serial number, flags of which only the two lowest bits may be set in
  the low byte, then bitmaps of record types (CSYNC). -/
  | typeBitmaps
  /-- Nothing at all. -/
  | empty
  /-- Types that never appear as records. -/
  | refused
  /-- Any bytes. -/
  | unstructured
  deriving DecidableEq, Repr

/-- The OPT pseudo-record type. -/
def typeOpt : Nat := 41

/-- The A record type. -/
def typeA : Nat := 1

/-- Layout of each record type's data. -/
def layoutOf : Nat → Layout
  | 1 => .address
  | 28 => .fixed 16
  | 2 | 5 | 12 | 65305 => .named 0
  | 15 => .named 2
  | 33 => .named 6
  | 6 => .authority
  | 16 => .texts
  | 13 => .pair
  | 35 => .namingAuthority
  | 41 => .options
  | 44 => .atLeast 2
  | 52 => .atLeast 3
  | 257 => .caa
  | 64 | 65 => .service
  | 62 => .typeBitmaps
  | 0 => .empty
  | 251 | 252 | 255 => .refused
  | _ => .unstructured

/-- Character strings one after another until `length` bytes are used. -/
def strings (msg : Bytes) (start length : Nat) : Nat → Nat → Except Fault Nat
  | 0, pos => .ok pos
  | fuel + 1, pos =>
    if pos - start ≥ length then .ok pos
    else do
      let (_, pos) ← characterData msg pos
      strings msg start length fuel pos

/-- Whether the data of a client subnet option reads: family 1 (IPv4) or 2
(IPv6), a source prefix length of at most the address's bits, a scope prefix
length, and the address bytes the source prefix covers. -/
def clientSubnetValid : List UInt8 → Bool
  | f1 :: f2 :: source :: _ :: address =>
    let family := f1.toNat * 256 + f2.toNat
    let covered := (source.toNat + 7) / 8
    (family = 1 && source.toNat ≤ 32 && address.length ≥ covered) ||
      (family = 2 && source.toNat ≤ 128 && address.length ≥ covered)
  | _ => false

/-- Whether the data of an option reads: the client subnet option (code 8) has a
layout; other options take any bytes. -/
def optionValid (code : Nat) (data : List UInt8) : Bool :=
  code ≠ 8 || clientSubnetValid data

/-- Where the reader of OPT options stands: before a code, after a code, or in
the data of an option, with the bytes still wanted and those read. -/
inductive OptionPlace
  | code
  | length (code : Nat)
  | data (code wanted : Nat) (read : List UInt8)

/-- Options of an OPT record, read while fewer than `length` bytes are used: a
code, a length of at most `length`, and that many bytes, taken one at a time.
An option cut short by the end of the data is dropped. -/
def options (msg : Bytes) (start length : Nat) : Nat → OptionPlace → Nat → Except Fault Nat
  | 0, _, pos => .ok pos
  | fuel + 1, place, pos =>
    if pos - start ≥ length then .ok pos
    else
      match place with
      | .code => do
        let (code, pos) ← u16At msg pos
        options msg start length fuel (.length code) pos
      | .length code => do
        let (n, pos) ← u16At msg pos
        if n > length then throw ⟨"OPT value length exceeds rdata length"⟩
        if n = 0 then
          unless optionValid code [] do throw ⟨"invalid EDNS option"⟩
          options msg start length fuel .code pos
        else options msg start length fuel (.data code n []) pos
      | .data code wanted read => do
        let (b, pos) ← byteAt msg pos
        let read := read ++ [b]
        if read.length = wanted then
          unless optionValid code read do throw ⟨"invalid EDNS option"⟩
          options msg start length fuel .code pos
        else options msg start length fuel (.data code wanted read) pos

/-- Whether the value of a service parameter reads, by its key (`mandatory`,
`alpn`, `no-default-alpn`, `port`, `ech`, `ipv4hint`, `ipv6hint`). -/
def paramValid (key : Nat) (value : List UInt8) : Bool :=
  let rec strings : Nat → List UInt8 → Bool
    | _, [] => true
    | 0, _ => false
    | fuel + 1, n :: rest =>
      rest.length ≥ n.toNat && (String.fromUTF8? (ByteArray.mk (rest.take n.toNat).toArray)).isSome &&
        strings fuel (rest.drop n.toNat)
  match key with
  | 0 => !value.isEmpty && value.length % 2 = 0
  | 1 => !value.isEmpty && strings value.length value
  | 2 => value.isEmpty
  | 3 => value.length ≥ 2
  | 4 => value.length % 4 = 0
  | 5 =>
    match value with
    | hi :: lo :: rest => hi.toNat * 256 + lo.toNat ≤ rest.length
    | _ => false
  | 6 => value.length % 16 = 0
  | _ => true

/-- Service parameters, read while at least four bytes of the data are left:
a key above the previous one, a length, and a value of that length. -/
def serviceParams (msg : Bytes) (start length : Nat) : Nat → Option Nat → Nat → Except Fault Nat
  | 0, _, pos => .ok pos
  | fuel + 1, previous, pos =>
    if pos - start > length then .error ⟨"Bad length for RDATA of SVCB"⟩
    else if length - (pos - start) < 4 then .ok pos
    else do
      let (key, pos) ← u16At msg pos
      if previous.any (· ≥ key) then throw ⟨"SvcParams out of order"⟩
      let (n, pos) ← u16At msg pos
      let (value, pos) ← sliceAt msg pos n
      unless paramValid key value do throw ⟨"invalid SvcParamValue"⟩
      serviceParams msg start length fuel (some key) pos

/-- Where the reader of type bitmaps stands: before a window number, before its
length, or in its bitmap bytes, with the length and the bytes left. -/
inductive BitmapPlace
  | window
  | width
  | bits (width left : Nat)

/-- Read one byte of type bitmaps. A set bit must name a type byte below 256,
so it may not stand past the 32nd byte of a window; a window of length zero
takes no bitmap byte. -/
def BitmapPlace.next : BitmapPlace → UInt8 → Option BitmapPlace
  | .window, _ => some .width
  | .width, b => some (.bits b.toNat b.toNat)
  | .bits w left, b =>
    if b ≠ 0 ∧ w - left ≥ 32 then none
    else if left = 0 then none
    else if left = 1 then some .window
    else some (.bits w (left - 1))

/-- Whether a byte is an ASCII letter or digit. -/
def alphanumeric (b : UInt8) : Bool := (48 ≤ b ∧ b ≤ 57) ∨ (65 ≤ b ∧ b ≤ 90) ∨ (97 ≤ b ∧ b ≤ 122)

/-- Read data of a layout from `pos`; `length` is the stated size. Answers the
position after what was read. -/
def readLayout (msg : Bytes) (length pos : Nat) : Layout → Except Fault Nat
  | .address => do let (_, p) ← sliceAt msg pos 4; pure p
  | .fixed n => do let (_, p) ← sliceAt msg pos n; pure p
  | .named skip => do
    let (_, p) ← sliceAt msg pos skip
    let (_, p) ← nameAt msg p
    pure p
  | .authority => do
    let (_, p) ← nameAt msg pos
    let (_, p) ← nameAt msg p
    let (_, p) ← sliceAt msg p 20
    pure p
  | .texts => strings msg pos length (length + 1) pos
  | .pair => do
    let (_, p) ← characterData msg pos
    let (_, p) ← characterData msg p
    pure p
  | .namingAuthority => do
    let (_, p) ← sliceAt msg pos 4
    let (flags, p) ← characterData msg p
    unless flags.all alphanumeric do throw ⟨"flags are not alphanumeric"⟩
    let (_, p) ← characterData msg p
    let (_, p) ← characterData msg p
    let (_, p) ← nameAt msg p
    pure p
  | .options => options msg pos length (length + 1) .code pos
  | .atLeast n =>
    if length < n then .error ⟨"invalid rdata length"⟩
    else do let (_, p) ← sliceAt msg pos length; pure p
  | .caa => do
    let (_, p) ← byteAt msg pos
    let (tagLength, p) ← byteAt msg p
    if tagLength.toNat + 2 > length then throw ⟨"CAA tag character(s) out of bounds"⟩
    let (tag, p) ← sliceAt msg p tagLength.toNat
    unless Caa.tagValid tag do throw ⟨"CAA tag character(s) out of bounds"⟩
    let (value, p) ← sliceAt msg p (length - tagLength.toNat - 2)
    unless Caa.valueValid tag value do throw ⟨"invalid CAA value"⟩
    pure p
  | .service => do
    let (_, p) ← u16At msg pos
    let (_, p) ← nameAt msg p
    serviceParams msg pos length (length + 1) none p
  | .typeBitmaps => do
    let (head, p) ← sliceAt msg pos 6
    unless head.getD 5 0 &&& 0xFC = 0 do throw ⟨"unrecognized CSYNC flags"⟩
    if length < 6 then throw ⟨"invalid rdata length in CSYNC"⟩
    let (bitmaps, p) ← sliceAt msg p (length - 6)
    match bitmaps.foldlM BitmapPlace.next .window with
    | some _ => pure p
    | none => throw ⟨"block left out of bounds in NSEC(3)"⟩
  | .empty => .ok pos
  | .refused => .error ⟨"unknown record type value"⟩
  | .unstructured => do let (_, p) ← sliceAt msg pos length; pure p

/-- Read the data of a record, which must take exactly `length` bytes; answers
the IPv4 address of an A record. -/
def recordData (msg : Bytes) (type length pos : Nat) : Except Fault (Option Net.Ipv4 × Nat) := do
  let after ← readLayout msg length pos (layoutOf type)
  if after - pos ≠ length then throw ⟨"incorrect rdata length read"⟩
  match layoutOf type, msg[pos]?, msg[pos + 1]?, msg[pos + 2]?, msg[pos + 3]? with
  | .address, some a, some b, some c, some d => pure (some ⟨a, b, c, d⟩, after)
  | _, _, _, _, _ => pure (none, after)

end SyslogRelay.Dns
