import SyslogRelay.Text.Utf8
import SyslogRelay.Text.Quoted

namespace SyslogRelay.Text

/-- Text of at most `capacity` bytes built by successive writes. -/
structure BoundedLine where
  capacity : Nat
  chars : List Char
  truncated : Bool
  deriving DecidableEq, Repr

namespace BoundedLine

/-- An empty line of the given capacity. -/
def empty (capacity : Nat) : BoundedLine := ⟨capacity, [], false⟩

/-- Number of bytes held. -/
def size (b : BoundedLine) : Nat := byteSize b.chars

def text (b : BoundedLine) : String := String.ofList b.chars

/-- Append the part of `s` that fits, cut on a character boundary. -/
def write (b : BoundedLine) (s : String) : BoundedLine :=
  let kept := fitting (b.capacity - b.size) s.toList
  { b with chars := b.chars ++ kept, truncated := b.truncated || decide (kept.length < s.length) }

/-- Write several pieces, each cut on its own. -/
def writeAll (b : BoundedLine) (pieces : List String) : BoundedLine :=
  pieces.foldl write b

/-- Drop trailing line feeds and carriage returns. -/
def trimLineEnds (b : BoundedLine) : BoundedLine :=
  { b with chars := dropLineEnds b.chars }

/-- End the line with exactly one line feed. A full line first gives up its last
character and is marked truncated. A line of capacity zero stays as it is. -/
def terminate (b : BoundedLine) : BoundedLine :=
  if b.capacity = 0 then b
  else
    let t := b.trimLineEnds
    let t := if t.size = t.capacity then { t with chars := t.chars.dropLast, truncated := true } else t
    { t with chars := t.chars ++ ['\n'] }

/-- Debug text of a line: its quoted contents inside `LineBuf(...)`. -/
def debugText (b : BoundedLine) : String :=
  "LineBuf(" ++ quoted b.text ++ ")"

theorem size_write_le (b : BoundedLine) (s : String) (h : b.size ≤ b.capacity) :
    (b.write s).size ≤ (b.write s).capacity := by
  simp only [write, size, byteSize_append]
  have := byteSize_fitting_le (b.capacity - byteSize b.chars) s.toList
  simp only [size] at h
  omega

end BoundedLine

end SyslogRelay.Text
