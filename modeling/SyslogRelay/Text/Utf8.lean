namespace SyslogRelay.Text

/-- Number of bytes the UTF-8 encoding of the characters takes. -/
def byteSize : List Char → Nat
  | [] => 0
  | c :: cs => c.utf8Size + byteSize cs

/-- The longest leading run of characters whose encoding fits in `budget` bytes. -/
def fitting : Nat → List Char → List Char
  | _, [] => []
  | budget, c :: cs =>
    if c.utf8Size ≤ budget then c :: fitting (budget - c.utf8Size) cs else []

/-- A string cut to at most `budget` bytes on a character boundary. -/
def cutBytes (s : String) (budget : Nat) : String :=
  String.ofList (fitting budget s.toList)

/-- Drop trailing line feeds and carriage returns. -/
def dropLineEnds (cs : List Char) : List Char :=
  (cs.reverse.dropWhile (fun c => c = '\n' ∨ c = '\r')).reverse

/-- The UTF-8 bytes of a string. -/
def utf8Bytes (s : String) : List UInt8 :=
  s.toUTF8.toList

/-- One byte as two lowercase hexadecimal digits. -/
def hexByte (b : UInt8) : String :=
  let digit (n : Nat) : Char := if n < 10 then Char.ofNat (48 + n) else Char.ofNat (87 + n)
  String.ofList [digit (b.toNat / 16), digit (b.toNat % 16)]

/-- Bytes written as lowercase hexadecimal, two digits each. -/
def hexOfBytes (bs : List UInt8) : String :=
  String.join (bs.map hexByte)

/-- Value of a hexadecimal digit, either case. -/
def hexDigit? (c : Char) : Option Nat :=
  if '0' ≤ c ∧ c ≤ '9' then some (c.toNat - 48)
  else if 'a' ≤ c ∧ c ≤ 'f' then some (c.toNat - 87)
  else if 'A' ≤ c ∧ c ≤ 'F' then some (c.toNat - 55)
  else none

/-- Read pairs of hexadecimal digits as bytes; blanks between digits are skipped. -/
def bytesOfHex? (s : String) : Option (List UInt8) :=
  go (s.toList.filter (fun c => !(c = ' ' ∨ c = '\n' ∨ c = '\t' ∨ c = '\r')))
where
  go : List Char → Option (List UInt8)
    | [] => some []
    | [_] => none
    | a :: b :: rest => do
      let hi ← hexDigit? a
      let lo ← hexDigit? b
      let tail ← go rest
      pure ((hi * 16 + lo).toUInt8 :: tail)

theorem byteSize_cons (c : Char) (cs : List Char) :
    byteSize (c :: cs) = c.utf8Size + byteSize cs := rfl

theorem byteSize_append (a b : List Char) : byteSize (a ++ b) = byteSize a + byteSize b := by
  induction a with
  | nil => simp [byteSize]
  | cons c cs ih =>
    rw [List.cons_append, byteSize_cons, byteSize_cons, ih]
    omega

theorem byteSize_fitting_le (budget : Nat) (cs : List Char) :
    byteSize (fitting budget cs) ≤ budget := by
  induction cs generalizing budget with
  | nil => simp [fitting, byteSize]
  | cons c cs ih =>
    unfold fitting
    split
    · have := ih (budget - c.utf8Size)
      rw [byteSize_cons]
      omega
    · simp [byteSize]

theorem fitting_isPrefixOf (budget : Nat) (cs : List Char) : fitting budget cs <+: cs := by
  induction cs generalizing budget with
  | nil => simp [fitting]
  | cons c cs ih =>
    unfold fitting
    split
    · exact List.cons_prefix_cons.mpr ⟨rfl, ih _⟩
    · exact List.nil_prefix

end SyslogRelay.Text
