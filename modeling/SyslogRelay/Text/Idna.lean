import SyslogRelay.Text.Idna.Mapping
import SyslogRelay.Text.Normalization
import SyslogRelay.Text.Mark
import SyslogRelay.Text.BidiClass
import SyslogRelay.Text.JoiningType
import SyslogRelay.Text.Punycode

/-!
The ASCII form of an internationalised domain name (Unicode Technical Standard
46, nontransitional, checking joiners and bidirectional text).
-/

namespace SyslogRelay.Text.Idna

/-- Why a domain name has no ASCII form. -/
inductive Error
  /-- A character the mapping table disallows. -/
  | disallowed (c : Char)
  /-- An ASCII character the deny list refuses. -/
  | denied (c : Char)
  /-- A label after `xn--` that is no Punycode of a label in another script. -/
  | badPunycode (label : String)
  /-- A decoded label that processing would change. -/
  | notNormal (label : String)
  /-- A label starting with a combining mark. -/
  | leadingMark (label : String)
  /-- A joiner where no virama or joining letters call for it. -/
  | misplacedJoiner (label : String)
  /-- A label that breaks the rules for bidirectional text. -/
  | bidi (label : String)
  /-- A label too long to be written in Punycode. -/
  | tooLong (label : String)
  deriving DecidableEq, Repr

/-- Which ASCII characters a domain may not hold. -/
inductive DenyList
  /-- Only letters, digits and hyphens are allowed, as in host names. -/
  | std3
  /-- The code points the URL Standard forbids in domains: controls, space,
  delete and `%#/:<>?@[\]^|`. -/
  | url
  deriving DecidableEq, Repr

/-- Whether the deny list refuses an ASCII character. -/
def DenyList.refuses : DenyList → Char → Bool
  | .std3, c => c.toNat < 0x80 && !(c.isLower || c.isDigit || c = '-' || c = '.')
  | .url, c => c.toNat ≤ 0x20 || c.toNat = 0x7F || "%#/:<>?@[\\]^|".toList.contains c

/-- The characters a character stands for after mapping. -/
def mapChar (c : Char) : Except Error (List Char) :=
  match status c with
  | .valid | .deviation => .ok [c]
  | .ignored => .ok []
  | .mapped replacement => .ok replacement
  | .disallowed => .error (.disallowed c)

/-- Map every character and put the result in NFC. -/
def mapped (cs : List Char) : Except Error (List Char) := do
  return nfc (← cs.mapM mapChar).flatten

/-- The labels of a name, cut at full stops. -/
def labels (cs : List Char) : List (List Char) :=
  ((String.ofList cs).splitOn ".").map String.toList

/-- The zero width non-joiner and joiner. -/
def nonJoiner : Char := '\u200C'
def joiner : Char := '\u200D'

/-- Whether the characters before a non-joiner, nearest first, reach a letter
joining to the left across transparent ones. -/
def joinsBefore : List Char → Bool
  | [] => false
  | c :: rest =>
    match joiningType c with
    | .transparent => joinsBefore rest
    | .leftJoining | .dualJoining => true
    | _ => false

/-- Whether the characters after a non-joiner reach a letter joining to the
right across transparent ones. -/
def joinsAfter : List Char → Bool
  | [] => false
  | c :: rest =>
    match joiningType c with
    | .transparent => joinsAfter rest
    | .rightJoining | .dualJoining => true
    | _ => false

/-- Whether every joiner of a label stands where it may: `before` holds the
characters already passed, nearest first. -/
def joinersFit (before : List Char) : List Char → Bool
  | [] => true
  | c :: rest =>
    let fits :=
      if c = joiner ∨ c = nonJoiner then
        match before with
        | b :: _ =>
          combiningClass b = viramaClass ||
            (c = nonJoiner && joinsBefore before && joinsAfter rest)
        | [] => false
      else true
    fits && joinersFit (c :: before) rest

/-- Whether a character makes a name one with bidirectional text. -/
def isRightToLeft (c : Char) : Bool :=
  match bidiClass c with
  | .rightToLeft | .arabicLetter | .arabicNumber => true
  | _ => false

/-- The classes allowed in a left-to-right label. -/
def leftToRightAllowed : BidiClass → Bool
  | .leftToRight | .europeanNumber | .europeanSeparator | .commonSeparator | .europeanTerminator
  | .otherNeutral | .boundaryNeutral | .nonspacingMark => true
  | _ => false

/-- The classes allowed in a right-to-left label. -/
def rightToLeftAllowed : BidiClass → Bool
  | .rightToLeft | .arabicLetter | .arabicNumber | .europeanNumber | .europeanSeparator
  | .commonSeparator | .europeanTerminator | .otherNeutral | .boundaryNeutral
  | .nonspacingMark => true
  | _ => false

/-- Whether a label keeps the rules for bidirectional labels (RFC 5893, section 2). -/
def bidiFits (label : List Char) : Bool :=
  let classes := label.map bidiClass
  let last := (classes.reverse.dropWhile (· = .nonspacingMark)).head?
  match classes.head? with
  | some .leftToRight =>
    classes.all leftToRightAllowed &&
      (last = some .leftToRight || last = some .europeanNumber)
  | some .rightToLeft | some .arabicLetter =>
    classes.all rightToLeftAllowed &&
      (last = some .rightToLeft || last = some .arabicLetter ||
        last = some .europeanNumber || last = some .arabicNumber) &&
      !(classes.contains .europeanNumber && classes.contains .arabicNumber)
  | _ => false

/-- Check what every label that is not empty must satisfy. -/
def checkLabel (deny : DenyList) (label : List Char) : Except Error Unit :=
  let text := String.ofList label
  match label with
  | [] => .ok ()
  | first :: _ =>
    if isMark first then .error (.leadingMark text)
    else match label.find? (fun c => c.toNat < 0x80 && deny.refuses c) with
      | some c => .error (.denied c)
      | none => if joinersFit [] label then .ok () else .error (.misplacedJoiner text)

/-- Whether a character may stand in a decoded label: valid or a deviation. -/
def keptAsIs (c : Char) : Bool :=
  match status c with
  | .valid | .deviation => true
  | _ => false

/-- The label a label starting with `xn--` stands for, checked. -/
def decodeLabel (deny : DenyList) (label : List Char) : Except Error (List Char) := do
  let text := String.ofList label
  if label.any (0x80 ≤ ·.toNat) then throw (.badPunycode text)
  let some decoded := Punycode.decode? (label.drop 4) | throw (.badPunycode text)
  if decoded.isEmpty || decoded.all (·.toNat < 0x80) then throw (.badPunycode text)
  unless isNfc decoded && decoded.all keptAsIs && !decoded.contains '.' &&
      decoded.take 4 != "xn--".toList do
    throw (.notNormal text)
  checkLabel deny decoded
  return decoded

/-- The Punycode form of a label, after `xn--`. -/
def encodeLabel (label : List Char) : Except Error (List Char) :=
  match Punycode.encode? label with
  | some digits => .ok ("xn--".toList ++ digits)
  | none => .error (.tooLong (String.ofList label))

/-- A label as processing leaves it, with its ASCII form. A decoded label keeps
the text it came from, once it is known to encode again. -/
def processLabel (deny : DenyList) (label : List Char) : Except Error (List Char × List Char) :=
  if label.take 4 = "xn--".toList then do
    let decoded ← decodeLabel deny label
    discard <| encodeLabel decoded
    return (decoded, label)
  else do
    checkLabel deny label
    if label.all (·.toNat < 0x80) then return (label, label)
    else return (label, ← encodeLabel label)

/-- The ASCII form of a domain name. -/
def toAscii (deny : DenyList) (name : String) : Except Error String := do
  let processed ← (labels (← mapped name.toList)).mapM (processLabel deny)
  let unicode := processed.map Prod.fst
  if unicode.any (·.any isRightToLeft) then
    for label in unicode do
      unless label.isEmpty || bidiFits label do throw (.bidi (String.ofList label))
  return ".".intercalate (processed.map fun (_, ascii) => String.ofList ascii)

end SyslogRelay.Text.Idna
