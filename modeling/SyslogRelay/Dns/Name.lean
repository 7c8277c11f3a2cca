import SyslogRelay.Text.Blank
import SyslogRelay.Text.Numeric
import SyslogRelay.Text.Idna

namespace SyslogRelay.Dns

/-- Why a name or message could not be made. -/
structure Fault where
  message : String
  deriving DecidableEq, Repr

/-- Control characters: the C0 and C1 ranges and delete. -/
def isControl (c : Char) : Bool := c.toNat < 0x20 || (0x7F ≤ c.toNat && c.toNat ≤ 0x9F)

/-- A domain name by its labels, leftmost first. -/
structure Name where
  labels : List (List UInt8)
  deriving DecidableEq, Repr, Inhabited

namespace Name

/-- The bytes of the name on the wire, ending in the zero byte of the root. -/
def wire (n : Name) : List UInt8 :=
  (n.labels.map fun l => l.length.toUInt8 :: l).flatten ++ [0]

/-- Wire size of the name: the labels with their length bytes, and the zero byte. -/
def wireSize (n : Name) : Nat := n.wire.length

/-- Bytes of the labels with a length byte each; a name without labels counts
one byte. -/
def encodedSize (n : Name) : Nat := max 1 n.labels.length + n.labels.foldr (fun l total => l.length + total) 0

/-- A byte in lower case, for ASCII letters. -/
def lowerByte (b : UInt8) : UInt8 := if 65 ≤ b ∧ b ≤ 90 then b + 32 else b

/-- Two names are the same when they have the same labels up to ASCII case. -/
def sameAs (n m : Name) : Bool :=
  n.labels.length = m.labels.length &&
    (n.labels.zip m.labels).all fun (a, b) => a.map lowerByte == b.map lowerByte

/-- Whether a character may stand in a label, at its start or later. -/
def labelChar (first : Bool) (c : Char) : Bool :=
  c.isAlphanum || (c = '-' && !first) || c = '.' || c = '_' || (c = '*' && first)

/-- Check one label read from text and give its bytes. -/
def label? (s : List Char) : Except Fault (List UInt8) :=
  let bytes := (String.ofList s).toUTF8.toList
  if bytes.length > 63 then .error ⟨"label bytes exceed 63: " ++ toString bytes.length⟩
  else if s = ['*'] then .ok bytes
  else
    match s with
    | c :: cs =>
      if s.all (fun x => x.toNat < 128) && labelChar true c && cs.all (labelChar false) then .ok bytes
      else .error ⟨"Malformed label: " ++ String.ofList s⟩
    | [] => .error ⟨"Malformed label: "⟩

/-- Check one label of a name written in any script and give its bytes: `*` and
labels starting with `_` as ASCII, any other through its IDNA ASCII form. -/
def idnaLabel? (s : List Char) : Except Fault (List UInt8) :=
  if s = ['*'] ∨ s.head? = some '_' then label? s
  else
    match Text.Idna.toAscii .std3 (String.ofList s) with
    | .ok ascii => label? ascii.toList
    | .error _ => .error ⟨"Label contains invalid characters: " ++ String.ofList s⟩

/-- Add a label at the end, keeping the labels within 255 bytes. -/
def push (n : Name) (l : List UInt8) : Except Fault Name :=
  let size := n.encodedSize + l.length + 1
  if size > 255 then .error ⟨"name label data exceed 255: " ++ toString size⟩
  else .ok ⟨n.labels ++ [l]⟩

/-- Where the reader of a name's text stands within an escape. -/
inductive Escape
  | none
  | started
  | oneDigit (d : Nat)
  | twoDigits (d e : Nat)

/-- An octal digit of a numeric character. -/
def octal? (c : Char) : Except Fault Nat :=
  if '0' ≤ c ∧ c ≤ '7' then .ok (c.toNat - 48) else .error ⟨"illegal char: " ++ String.singleton c⟩

/-- Read the characters of a name's text, checking each label with `check`;
`label` holds the current label. -/
def scan (check : List Char → Except Fault (List UInt8)) :
    Name → List Char → Escape → List Char → Except Fault (Name × List Char)
  | n, label, _, [] => .ok (n, label)
  | n, label, .none, c :: cs =>
    if c = '.' then do
      let l ← check label
      scan check (← n.push l) [] .none cs
    else if c = '\\' then scan check n label .started cs
    else if !(isControl c) && !(Text.isBlank c) then scan check n (label ++ [c]) .none cs
    else .error ⟨"unrecognized char: " ++ String.singleton c⟩
  | n, label, .started, c :: cs =>
    if Text.isNumeric c then do scan check n label (.oneDigit (← octal? c)) cs
    else scan check n (label ++ [c]) .none cs
  | n, label, .oneDigit d, c :: cs =>
    if Text.isNumeric c then do scan check n label (.twoDigits d (← octal? c)) cs
    else .error ⟨"unrecognized char: " ++ String.singleton c⟩
  | n, label, .twoDigits d e, c :: cs =>
    if Text.isNumeric c then do
      let f ← octal? c
      scan check n (label ++ [Char.ofNat (d * 64 + e * 8 + f)]) .none cs
    else .error ⟨"unrecognized char: " ++ String.singleton c⟩

/-- Read a name from its text, checking each label with `check`. -/
def readText? (check : List Char → Except Fault (List UInt8)) (s : String) : Except Fault Name :=
  if s = "." then .ok ⟨[]⟩
  else do
    let (n, label) ← scan check ⟨[]⟩ [] .none s.toList
    if label.isEmpty then pure n
    else n.push (← check label)

/-- Read a name of ASCII labels from its text. -/
def ofText? (s : String) : Except Fault Name := readText? label? s

/-- Read a name of labels in any script from its text. -/
def ofUnicodeText? (s : String) : Except Fault Name := readText? idnaLabel? s

end Name

end SyslogRelay.Dns
