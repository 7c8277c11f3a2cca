import SyslogRelay.Text.Printable
import SyslogRelay.Text.GraphemeExtend

namespace SyslogRelay.Text

/-- Lowercase hexadecimal digits of a number, without leading zeros. -/
def hexDigits (n : Nat) : String :=
  String.ofList (Nat.toDigits 16 n)

/-- The escape written for a character, or none if it is written as itself. -/
def escapeOf? (c : Char) : Option String :=
  if c = '\x00' then some "\\0"
  else if c = '\t' then some "\\t"
  else if c = '\r' then some "\\r"
  else if c = '\n' then some "\\n"
  else if c = '\\' then some "\\\\"
  else if c = '"' then some "\\\""
  else if isGraphemeExtend c || !isPrintable c then some ("\\u\x7b" ++ hexDigits c.toNat ++ "\x7d")
  else none

/-- Runs of kept characters and escapes, in order. `run` holds the characters
kept since the last escape, reversed. -/
def quotedBody (run : List Char) : List Char → List String
  | [] => [String.ofList run.reverse]
  | c :: cs =>
    match escapeOf? c with
    | some e => String.ofList run.reverse :: e :: quotedBody [] cs
    | none => quotedBody (c :: run) cs

/-- The pieces of the debug quotation of a text. -/
def quotedPieces (s : String) : List String :=
  "\"" :: quotedBody [] s.toList ++ ["\""]

/-- The debug quotation of a text. -/
def quoted (s : String) : String :=
  String.join (quotedPieces s)

end SyslogRelay.Text
