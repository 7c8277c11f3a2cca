import SyslogRelay.Json.Reader

namespace SyslogRelay.Json

/-- Deepest nesting of arrays and objects that is read, plus one. -/
def depthLimit : Nat := 128

/-- The members of an object up to its closing brace, each value read by `read`. -/
def readMembers (src : Source) (read : Chars → Except Error (Value × Chars)) :
    Nat → Bool → Chars → Except Error (List (String × Value) × Chars)
  | 0, _, rest => .ok ([], rest)
  | fuel + 1, first, rest => do
    let (key, rest) ← nextKey src first rest
    match key with
    | none => pure ([], rest)
    | some k =>
      let rest ← colon src rest
      let (v, rest) ← read rest
      let (more, rest) ← readMembers src read fuel false rest
      pure ((k, v) :: more, rest)

/-- Read one value; `depth` is how many more brackets may open. -/
def Value.read (src : Source) : Nat → Chars → Except Error (Value × Chars)
  | depth, rest =>
    match skipBlank rest with
    | [] => .error (src.atPeek [] .eofWhileParsingValue)
    | 'n' :: cs => (word src ['u', 'l', 'l'] cs).map (.null, ·)
    | 't' :: cs => (word src ['r', 'u', 'e'] cs).map (.bool true, ·)
    | 'f' :: cs => (word src ['a', 'l', 's', 'e'] cs).map (.bool false, ·)
    | '-' :: cs => (readNumber src false cs).map fun (n, r) => (.number n, r)
    | '"' :: cs => (readString src [] cs).map fun (s, r) => (.string s, r)
    | '[' :: cs =>
      match depth with
      | 0 | 1 => .error (src.atPeek ('[' :: cs) .recursionLimitExceeded)
      | d + 2 => do
        let (xs, r) ← readItems src (Value.read src (d + 1)) (cs.length + 1) true cs
        let r ← closeList src r
        pure (.array xs, r)
    | '{' :: cs =>
      match depth with
      | 0 | 1 => .error (src.atPeek ('{' :: cs) .recursionLimitExceeded)
      | d + 2 => do
        let (ms, r) ← readMembers src (Value.read src (d + 1)) (cs.length + 1) true cs
        let r ← closeObject src r
        pure (.object ms, r)
    | c :: cs =>
      if isDigit c then (readNumber src true (c :: cs)).map fun (n, r) => (.number n, r)
      else .error (src.atPeek (c :: cs) .expectedSomeValue)

/-- Read a whole text as one value followed only by blanks. -/
def Value.parse (text : String) : Except Error Value := do
  let src := Source.ofString text
  let (v, rest) ← Value.read src depthLimit src.chars
  match skipBlank rest with
  | [] => pure v
  | s => throw (src.atPeek s .trailingCharacters)

/-- The last member of an object with a given name. -/
def Value.field? (v : Value) (name : String) : Option Value :=
  match v with
  | .object ms => (ms.reverse.find? (fun m => m.1 = name)).map Prod.snd
  | _ => none

end SyslogRelay.Json
