import SyslogRelay.Text.Normalization.CombiningClass
import SyslogRelay.Text.Normalization.Decomposition

namespace SyslogRelay.Text

/-- The first Hangul syllable, and the first leading consonant, vowel and
trailing consonant jamo (the latter one before the first real one). -/
def hangulBase : Nat := 0xAC00
def leadingBase : Nat := 0x1100
def vowelBase : Nat := 0x1161
def trailingBase : Nat := 0x11A7

/-- The numbers of leading consonants, vowels, trailing consonants (with none),
and syllables. -/
def leadingCount : Nat := 19
def vowelCount : Nat := 21
def trailingCount : Nat := 28
def syllableCount : Nat := 11172

/-- The jamo a Hangul syllable decomposes into, if it is one. -/
def hangulDecomposition? (c : Char) : Option (List Char) :=
  let s := c.toNat
  if hangulBase ≤ s ∧ s < hangulBase + syllableCount then
    let i := s - hangulBase
    let l := Char.ofNat (leadingBase + i / (vowelCount * trailingCount))
    let v := Char.ofNat (vowelBase + i % (vowelCount * trailingCount) / trailingCount)
    let t := i % trailingCount
    some (if t = 0 then [l, v] else [l, v, Char.ofNat (trailingBase + t)])
  else none

/-- The full canonical decomposition of a character, unfolding the table at
most `depth` levels (four suffice). -/
def decomposeTo : Nat → Char → List Char
  | 0, c => [c]
  | depth + 1, c =>
    match hangulDecomposition? c with
    | some jamo => jamo
    | none =>
      match decomposition? c with
      | some d => d.parts.flatMap (decomposeTo depth)
      | none => [c]

/-- The full canonical decomposition of a character. -/
def decompose (c : Char) : List Char := decomposeTo 4 c

/-- A run of combining marks in order of class; marks of one class keep their
order. -/
def sortMarks (run : List Char) : List Char :=
  run.mergeSort fun a b => combiningClass a ≤ combiningClass b

/-- Canonical ordering: every run of combining marks sorted, `run` being the
marks read so far. -/
def canonicalOrder (run : List Char) : List Char → List Char
  | [] => sortMarks run
  | c :: rest =>
    if combiningClass c = 0 then sortMarks run ++ c :: canonicalOrder [] rest
    else canonicalOrder (run ++ [c]) rest

/-- The normalisation form NFD. -/
def nfd (cs : List Char) : List Char := canonicalOrder [] (cs.flatMap decompose)

/-- The character a pair composes into, Hangul syllables included. -/
def composePair? (a b : Char) : Option Char :=
  let x := a.toNat
  let y := b.toNat
  if leadingBase ≤ x ∧ x < leadingBase + leadingCount ∧ vowelBase ≤ y ∧ y < vowelBase + vowelCount then
    some (Char.ofNat (hangulBase +
      ((x - leadingBase) * vowelCount + (y - vowelBase)) * trailingCount))
  else if hangulBase ≤ x ∧ x < hangulBase + syllableCount ∧ (x - hangulBase) % trailingCount = 0 ∧
      trailingBase < y ∧ y < trailingBase + trailingCount then
    some (Char.ofNat (x + (y - trailingBase)))
  else composition? a b

/-- Where composition stands: the characters written, the place of the last
starter, and the class of the last character written after it (0 when it is
the last written, 256 when there is no starter yet). -/
structure Composing where
  written : Array Char
  starter : Nat
  lastClass : Nat

/-- Compose one more character onto what is written. -/
def Composing.next (st : Composing) (c : Char) : Composing :=
  let cls := combiningClass c
  let joined := if st.lastClass < cls ∨ st.lastClass = 0 then
      match st.written[st.starter]? with
      | some s => composePair? s c
      | none => none
    else none
  match joined with
  | some p => { st with written := st.written.setIfInBounds st.starter p }
  | none =>
    { written := st.written.push c,
      starter := if cls = 0 then st.written.size else st.starter,
      lastClass := cls }

/-- Canonical composition of a text in canonical order. -/
def compose : List Char → List Char
  | [] => []
  | first :: rest =>
    let start : Composing := ⟨#[first], 0, if combiningClass first = 0 then 0 else 256⟩
    (rest.foldl Composing.next start).written.toList

/-- The normalisation form NFC. -/
def nfc (cs : List Char) : List Char := compose (nfd cs)

/-- Whether a text is in the normalisation form NFC. -/
def isNfc (cs : List Char) : Bool := nfc cs == cs

end SyslogRelay.Text
