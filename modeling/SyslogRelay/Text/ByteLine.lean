import SyslogRelay.Text.Utf8
import SyslogRelay.Text.Quoted

/-!
The bounded line as the bytes it is kept in. Every index and subtraction is
checked: a step that would reach past the buffer or count below zero gives `none`.
-/

namespace SyslogRelay.Text

/-- A UTF-8 continuation byte, `10xxxxxx`. -/
def isContinuation (b : UInt8) : Bool := b &&& 0xC0 == 0x80

/-- The byte at `i` starts a character, or `i` is the end of the bytes. -/
def startsChar (bytes : List UInt8) (i : Nat) : Bool :=
  match bytes[i]? with
  | some b => !isContinuation b
  | none => i == bytes.length

/-- A text of these bytes may be cut at `i`. -/
def isCharBoundary (bytes : List UInt8) (i : Nat) : Bool :=
  i == 0 || startsChar bytes i

/-- `a - b`, or none when `b` is larger. -/
def checkedSub (a b : Nat) : Option Nat :=
  if b ≤ a then some (a - b) else none

/-- A line kept in a byte buffer whose first `len` bytes are in use. -/
structure ByteLine where
  buf : List UInt8
  len : Nat
  truncated : Bool
  deriving DecidableEq, Repr

namespace ByteLine

/-- An empty line over a zeroed buffer of `n` bytes. -/
def new (n : Nat) : ByteLine := ⟨List.replicate n 0, 0, false⟩

def capacity (l : ByteLine) : Nat := l.buf.length

/-- The bytes in use. -/
def used? (l : ByteLine) : Option (List UInt8) :=
  if l.len ≤ l.buf.length then some (l.buf.take l.len) else none

/-- The bytes in use read as UTF-8, or the empty text if they are not valid. -/
def text? (l : ByteLine) : Option String :=
  l.used?.map fun bs => (String.fromUTF8? bs.toByteArray).getD ""

/-- The largest cut point at or below `i`, walking down a byte at a time. -/
def boundaryBelow? (bytes : List UInt8) : Nat → Option Nat
  | 0 => if isCharBoundary bytes 0 then some 0 else none
  | i + 1 => if isCharBoundary bytes (i + 1) then some (i + 1) else boundaryBelow? bytes i

def copyAt? (buf : List UInt8) (start : Nat) (src : List UInt8) : Option (List UInt8) :=
  if start + src.length ≤ buf.length then
    some (buf.take start ++ src ++ buf.drop (start + src.length))
  else none

def setAt? (buf : List UInt8) (i : Nat) (b : UInt8) : Option (List UInt8) :=
  if i < buf.length then some (buf.set i b) else none

/-- Append the longest leading part of the bytes of `s` that fits the room left
and ends on a character boundary; mark the line if that is not all of them. -/
def write? (l : ByteLine) (s : String) : Option ByteLine := do
  let bytes := utf8Bytes s
  let remaining ← checkedSub l.capacity l.len
  let take ← boundaryBelow? bytes (min bytes.length remaining)
  let src ← if take ≤ bytes.length then some (bytes.take take) else none
  let buf ← copyAt? l.buf l.len src
  pure ⟨buf, l.len + take, l.truncated || decide (take < bytes.length)⟩

/-- The length once the line feeds and carriage returns before `n` are dropped. -/
def trimmedLen? (buf : List UInt8) : Nat → Option Nat
  | 0 => some 0
  | n + 1 =>
    match buf[n]? with
    | some b => if b = 10 ∨ b = 13 then trimmedLen? buf n else some (n + 1)
    | none => none

def trim? (l : ByteLine) : Option ByteLine := do
  let len ← trimmedLen? l.buf l.len
  pure { l with len }

/-- Where the character holding the byte at `e` starts: walk down over
continuation bytes, stopping at 0. -/
def charStart? (buf : List UInt8) : Nat → Option Nat
  | 0 => some 0
  | e + 1 =>
    match buf[e + 1]? with
    | some b => if isContinuation b then charStart? buf e else some (e + 1)
    | none => none

/-- End the line with exactly one line feed. A full line first gives up its last
character and is marked truncated. A buffer of no bytes stays as it is. -/
def terminate? (l : ByteLine) : Option ByteLine :=
  if l.capacity = 0 then some l
  else do
    let t ← l.trim?
    let t ← if t.len = t.capacity then do
        let last ← checkedSub t.len 1
        let start ← charStart? t.buf last
        pure { t with len := start, truncated := true }
      else pure t
    let buf ← setAt? t.buf t.len 10
    pure { t with buf, len := t.len + 1 }

/-- Debug text of a line: its quoted text inside `LineBuf(...)`. -/
def debugText? (l : ByteLine) : Option String :=
  l.text?.map fun t => "LineBuf(" ++ quoted t ++ ")"

end ByteLine

end SyslogRelay.Text
