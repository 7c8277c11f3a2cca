import SyslogRelay.Dns.Name
import SyslogRelay.Net.Url

namespace SyslogRelay.Dns.Caa

/-- Whether a Latin-1 character is blank. -/
def isBlank (c : Char) : Bool :=
  let n := c.toNat
  (0x09 ≤ n && n ≤ 0x0D) || n = 0x20 || n = 0x85 || n = 0xA0

/-- Where the reader of an issuer's parameters stands. -/
inductive Place
  /-- Between parameters. -/
  | between
  /-- In a key; `first` while only its first character has been read. -/
  | key (first : Bool)
  /-- In a value. -/
  | value
  deriving DecidableEq, Repr

/-- Read one character of the parameters; none when it is refused. -/
def Place.next : Place → Char → Option Place
  | .between, c =>
    if c = ';' || c = ' ' || c = '\t' then some .between
    else if c.isAlphanum then some (.key true)
    else none
  | .key first, c =>
    if c = '=' then some .value
    else if c.isAlphanum || (!first && c = '-') then some (.key false)
    else none
  | .value, c =>
    if c = ';' then some .between
    else if !isControl c && !isBlank c then some .value
    else none

/-- Whether the parameters of an issuer read: no refused character, and no key
left without a value. -/
def parametersValid (cs : List Char) : Bool :=
  match cs.foldlM Place.next .between with
  | some (.key _) => false
  | some _ => true
  | none => false

/-- Whether an issuer reads: its domain name, if any, and its parameters. -/
def issuerValid (bytes : List UInt8) : Bool :=
  let name := bytes.takeWhile (· ≠ 59)
  let nameValid := match String.fromUTF8? (ByteArray.mk name.toArray) with
    | some text => (Name.ofUnicodeText? text).toBool
    | none => false
  (name.isEmpty || nameValid) &&
    parametersValid ((bytes.drop (name.length + 1)).map fun b => Char.ofNat b.toNat)

/-- Whether a tag reads: 1 to 15 ASCII letters and digits. -/
def tagValid (tag : List UInt8) : Bool :=
  0 < tag.length && tag.length ≤ 15 && tag.all fun b => (Char.ofNat b.toNat).isAlphanum

/-- Whether the value of a property reads. -/
def valueValid (tag value : List UInt8) : Bool :=
  let name := String.ofList (tag.map fun b => (Char.ofNat b.toNat).toLower)
  if name = "issue" ∨ name = "issuewild" then issuerValid value
  else if name = "iodef" then
    match String.fromUTF8? (ByteArray.mk value.toArray) with
    | some url => Net.Url.isUrl url
    | none => false
  else true

end SyslogRelay.Dns.Caa
