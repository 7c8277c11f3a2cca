/-!
Tables that give a value to every code point, as rows sorted by the code point
each starts at, and their compact text form.
-/

namespace SyslogRelay.Text

/-- The value of a hexadecimal digit, upper or lower case; other characters
count as zero. -/
def hexDigit (c : Char) : Nat :=
  if '0' ≤ c ∧ c ≤ '9' then c.toNat - 48
  else if 'a' ≤ c ∧ c ≤ 'f' then c.toNat - 87
  else if 'A' ≤ c ∧ c ≤ 'F' then c.toNat - 55
  else 0

/-- Whether a character is a hexadecimal digit. -/
def isHexDigit (c : Char) : Bool :=
  ('0' ≤ c ∧ c ≤ '9') || ('a' ≤ c ∧ c ≤ 'f') || ('A' ≤ c ∧ c ≤ 'F')

/-- The number that hexadecimal digits stand for. -/
def hexNumber (ds : List Char) : Nat :=
  ds.foldl (fun acc d => acc * 16 + hexDigit d) 0

example : hexNumber "10FFFF".toList = 0x10FFFF := by decide

/-- A number in hexadecimal at the start of a word, and the rest of the word. -/
def leadingHex (cs : List Char) : Nat × List Char :=
  (hexNumber (cs.takeWhile isHexDigit), cs.dropWhile isHexDigit)

/-- Numbers in hexadecimal separated by commas. -/
def hexList (cs : List Char) : List Nat :=
  ((String.ofList cs).splitOn ",").filterMap fun w =>
    if w.isEmpty then none else some (hexNumber w.toList)

/-- The words of a table's lines, as characters. -/
def tableWords (text : List String) : List (List Char) :=
  text.flatMap fun line => ((line.splitOn " ").filter (!·.isEmpty)).map String.toList

/-- Rows sorted by their starting code points, each with a value. -/
structure CodePointTable (α : Type) where
  starts : Array Nat
  values : Array α

namespace CodePointTable

/-- The table with the given rows, which must come sorted by start. -/
def ofRows {α : Type} (rows : List (Nat × α)) : CodePointTable α :=
  ⟨(rows.map Prod.fst).toArray, (rows.map Prod.snd).toArray⟩

/-- The last row among `lo` to `hi - 1` that starts at or before `n`, for
sorted starts, when row `lo` does. -/
def lastRowFrom (starts : Array Nat) (n lo hi : Nat) : Nat :=
  if lo + 1 < hi then
    let mid := (lo + hi) / 2
    if starts.getD mid 0 ≤ n then lastRowFrom starts n mid hi else lastRowFrom starts n lo mid
  else lo
termination_by hi - lo

/-- The row a code point falls in, with the code point the row starts at; none
before the first row. -/
def find? {α : Type} (t : CodePointTable α) (n : Nat) : Option (Nat × α) :=
  if t.starts.getD 0 (n + 1) ≤ n then
    let row := lastRowFrom t.starts n 0 t.starts.size
    match t.values[row]? with
    | some v => some (t.starts.getD row 0, v)
    | none => none
  else none

/-- The value a table gives a code point, or `fallback` before the first row. -/
def valueAt {α : Type} (t : CodePointTable α) (fallback : α) (n : Nat) : α :=
  match t.find? n with
  | some (_, v) => v
  | none => fallback

/-- The table of a set of code points given by inclusive ranges, sorted and
apart: inside a range the value is true. -/
def ofRanges (ranges : List (Nat × Nat)) : CodePointTable Bool :=
  ofRows ((0, false) :: ranges.flatMap fun (a, b) => [(a, true), (b + 1, false)])

example : (ofRanges [(3, 5), (9, 9)]).valueAt false 5 = true := by decide +kernel
example : (ofRanges [(3, 5), (9, 9)]).valueAt false 6 = false := by decide +kernel

end CodePointTable

/-- Ranges written as words `start-end` in hexadecimal, or `start` alone for a
range of one code point. -/
def rangeWords (text : List String) : List (Nat × Nat) :=
  (tableWords text).map fun w =>
    let (a, rest) := leadingHex w
    match rest with
    | '-' :: b => (a, hexNumber b)
    | _ => (a, a)

end SyslogRelay.Text
