import SyslogRelay.Net.Address
import SyslogRelay.Text.Idna

/-!
Which texts read as absolute URLs under the URL Standard, with no base URL to
resolve against.
-/

namespace SyslogRelay.Net.Url

/-- The schemes whose hosts are domains or addresses, `file` apart. -/
def specialSchemes : List String := ["ftp", "http", "https", "ws", "wss"]

/-- The characters that no host may hold. -/
def forbiddenHostChar (c : Char) : Bool :=
  c = '\x00' || c = '\t' || c = '\n' || c = '\r' || c = ' ' || c = '#' || c = '/' || c = ':' ||
    c = '<' || c = '>' || c = '?' || c = '@' || c = '[' || c = '\\' || c = ']' || c = '^' ||
    c = '|'

/-- The characters that no domain may hold: those of hosts, every C0 control,
`%` and delete. -/
def forbiddenDomainChar (c : Char) : Bool :=
  forbiddenHostChar c || c.toNat < 0x20 || c = '%' || c.toNat = 0x7F

/-- The text a URL is read from: no C0 control or space at either end, and no
tab or line break anywhere. -/
def cleaned (s : String) : List Char :=
  let outer (c : Char) : Bool := c.toNat ≤ 0x20
  (((s.toList.dropWhile outer).reverse.dropWhile outer).reverse).filter
    fun c => !(c = '\t' || c = '\n' || c = '\r')

/-- The scheme in lower case and what follows its colon, if the text starts with one. -/
def scheme? (cs : List Char) : Option (String × List Char) :=
  match cs with
  | c :: _ =>
    if !c.isAlpha then none
    else
      let (name, rest) := cs.span fun x => x.isAlphanum || x = '+' || x = '-' || x = '.'
      match rest with
      | ':' :: after => some (String.ofList (name.map Char.toLower), after)
      | _ => none
  | [] => none

/-- Whether a whole text is an IPv6 address. -/
def isIpv6 (cs : List Char) : Bool :=
  match readIpv6 cs with
  | some (_, []) => true
  | _ => false

/-- A part of an IPv4 host: hexadecimal after `0x`, octal after a leading zero,
else decimal; nothing after the prefix counts as zero. None if it is no number. -/
def ipv4Number? (cs : List Char) : Option Nat :=
  let (radix, ds) := match cs with
    | '0' :: 'x' :: r => (16, r)
    | '0' :: 'X' :: r => (16, r)
    | '0' :: d :: r => (8, d :: r)
    | r => (10, r)
  if cs.isEmpty then none
  else if ds.isEmpty then some 0
  else
    let (digits, rest) := digitRun radix ds
    if !rest.isEmpty || digits.any (· ≥ radix) then none
    else some (digits.foldl (fun acc d => acc * radix + d) 0)

/-- Whether the last label of a domain, a final empty one aside, is a number. -/
def endsInNumber (labels : List String) : Bool :=
  let last := match labels.reverse with
    | "" :: l :: _ => some l
    | l :: _ => if l.isEmpty then none else some l
    | [] => none
  match last with
  | some l => (!l.isEmpty && l.toList.all Char.isDigit) || (ipv4Number? l.toList).isSome
  | none => false

/-- Whether the labels of a domain form an IPv4 address: at most four numbers,
all but the last at most 255, the last filling the bytes left. -/
def isIpv4 (labels : List String) : Bool :=
  let parts := if labels.getLast? = some "" then labels.dropLast else labels
  match parts.mapM (fun p => ipv4Number? p.toList) with
  | some ns =>
    ns.length ≤ 4 && ns.dropLast.all (· ≤ 255) &&
      ns.getLast?.all (· < Nat.pow 256 (5 - ns.length))
  | none => false

/-- The value of a hexadecimal digit. -/
def hexValue? (c : Char) : Option Nat :=
  if '0' ≤ c ∧ c ≤ '9' then some (c.toNat - 48)
  else if 'a' ≤ c ∧ c ≤ 'f' then some (c.toNat - 87)
  else if 'A' ≤ c ∧ c ≤ 'F' then some (c.toNat - 55)
  else none

/-- Bytes with every `%` and two hexadecimal digits replaced by that byte. -/
def percentDecoded : List UInt8 → List UInt8
  | 37 :: h :: l :: rest =>
    match hexValue? (Char.ofNat h.toNat), hexValue? (Char.ofNat l.toNat) with
    | some a, some b => (a * 16 + b).toUInt8 :: percentDecoded rest
    | _, _ => 37 :: percentDecoded (h :: l :: rest)
  | b :: rest => b :: percentDecoded rest
  | [] => []

/-- Whether a host of a special scheme reads: an IPv6 address in brackets, or a
domain that decodes to UTF-8 and has a nonempty ASCII form, which is an IPv4
address if it ends in a number. -/
def specialHost (host : List Char) : Bool :=
  match host with
  | '[' :: rest => rest.getLast? = some ']' && isIpv6 rest.dropLast
  | _ =>
    match String.fromUTF8? (ByteArray.mk (percentDecoded (String.ofList host).toUTF8.toList).toArray) with
    | none => false
    | some domain =>
      match Text.Idna.toAscii .url domain with
      | .error _ => false
      | .ok ascii =>
        let labels := ascii.splitOn "."
        !ascii.isEmpty && (!endsInNumber labels || isIpv4 labels)

/-- Whether a host of another scheme reads: an IPv6 address in brackets, or text
without forbidden host characters. -/
def opaqueHost (host : List Char) : Bool :=
  match host with
  | '[' :: rest => rest.getLast? = some ']' && isIpv6 rest.dropLast
  | _ => !host.any forbiddenHostChar

/-- The host, up to a colon outside brackets, and what follows that colon. -/
def splitPort (inside : Bool) : List Char → List Char × Option (List Char)
  | [] => ([], none)
  | c :: rest =>
    if c = ':' && !inside then ([], some rest)
    else
      let (host, port) := splitPort (if c = '[' then true else if c = ']' then false else inside) rest
      (c :: host, port)

/-- Whether a port reads: decimal digits up to 65535, ended by the authority or a
backslash. -/
def portValid (cs : List Char) : Bool :=
  let digits := cs.takeWhile Char.isDigit
  let rest := cs.drop digits.length
  (rest.isEmpty || rest.head? = some '\\') &&
    digits.foldl (fun acc d => acc * 10 + (d.toNat - 48)) 0 ≤ 65535

/-- Whether an authority and what follows it read. -/
def authorityValid (special : Bool) (cs : List Char) : Bool :=
  let ends (c : Char) : Bool := c = '/' || c = '?' || c = '#' || (special && c = '\\')
  let authority := cs.takeWhile (!ends ·)
  let hostPort := (authority.reverse.takeWhile (· ≠ '@')).reverse
  let userInfo := authority.take (authority.length - hostPort.length - 1)
  let credentials := authority.contains '@' && !userInfo.isEmpty && userInfo != [':']
  let (host, port) := splitPort false hostPort
  if authority = ['@'] && authority.length < cs.length then false
  else if host.isEmpty then port.isNone && !special && !credentials
  else
    (if special then specialHost host else opaqueHost host) && port.all portValid

/-- Whether what follows `file:` reads: a host after two slashes may be empty or
a drive letter; otherwise it is a special host. -/
def fileValid (cs : List Char) : Bool :=
  let slash (c : Char) : Bool := c = '/' || c = '\\'
  match cs with
  | a :: b :: rest =>
    if slash a && slash b then
      let host := rest.takeWhile fun c => !(slash c || c = '?' || c = '#')
      match host with
      | [] => true
      | [d, c] => (d.isAlpha && (c = ':' || c = '|')) || specialHost host
      | _ => host.map Char.toLower = "localhost".toList || specialHost host
    else true
  | _ => true

/-- Whether a text reads as an absolute URL. -/
def isUrl (s : String) : Bool :=
  match scheme? (cleaned s) with
  | none => false
  | some (scheme, rest) =>
    if scheme = "file" then fileValid rest
    else if scheme ∈ specialSchemes then
      authorityValid true (rest.dropWhile fun c => c = '/' || c = '\\')
    else
      match rest with
      | '/' :: '/' :: after => authorityValid false after
      | _ => true

end SyslogRelay.Net.Url
