import SyslogRelay.Json.Lexer
import SyslogRelay.Json.Schema

namespace SyslogRelay.Json

variable {α β γ : Type}

/-- The error for a value of another kind where `expected` was wanted; `rest`
starts at the value. -/
def Source.mismatch (src : Source) (expected : String) (rest : Chars) : Error :=
  let found (r : Except Error (Unexpected × Chars)) : Error :=
    match r with
    | .ok (u, after) => src.place after ⟨.invalidType u expected, none⟩
    | .error e => e
  match rest with
  | 'n' :: cs => found ((word src ['u', 'l', 'l'] cs).map (.unit, ·))
  | 't' :: cs => found ((word src ['r', 'u', 'e'] cs).map (.bool true, ·))
  | 'f' :: cs => found ((word src ['a', 'l', 's', 'e'] cs).map (.bool false, ·))
  | '-' :: cs => found ((readNumber src false cs).map fun (n, r) => (n.unexpected, r))
  | '"' :: cs => found ((readString src [] cs).map fun (s, r) => (.str s, r))
  | '[' :: _ => src.place rest ⟨.invalidType .seq expected, none⟩
  | '{' :: _ => src.place rest ⟨.invalidType .map expected, none⟩
  | c :: cs =>
    if isDigit c then found ((readNumber src true (c :: cs)).map fun (n, r) => (n.unexpected, r))
    else src.atPeek rest .expectedSomeValue
  | [] => src.atPeek [] .expectedSomeValue

/-- Turn a problem of a value just read into an error placed after it. -/
def Source.check (src : Source) (r : Except Problem β) (after : Chars) : Except Error (β × Chars) :=
  match r with
  | .ok b => .ok (b, after)
  | .error p => .error (src.place after ⟨p, none⟩)

/-- A colon between a key and its value. -/
def colon (src : Source) (rest : Chars) : Except Error Chars :=
  match skipBlank rest with
  | ':' :: cs => .ok cs
  | [] => .error (src.atPeek [] .eofWhileParsingObject)
  | r => .error (src.atPeek r .expectedColon)

/-- A string value. -/
def readText (src : Source) (rest : Chars) : Except Error (String × Chars) :=
  match skipBlank rest with
  | [] => .error (src.atPeek [] .eofWhileParsingValue)
  | '"' :: cs => readString src [] cs
  | r => .error (src.mismatch "a string" r)

/-- `null`, the only value of the unit type. -/
def readUnit (src : Source) (rest : Chars) : Except Error Chars :=
  match skipBlank rest with
  | [] => .error (src.atPeek [] .eofWhileParsingValue)
  | 'n' :: cs => word src ['u', 'l', 'l'] cs
  | r => .error (src.mismatch "unit" r)

/-- The name of an alternative, as a string. -/
def readName (src : Source) (options : List (String × β)) (rest : Chars) : Except Error (β × Chars) :=
  match skipBlank rest with
  | [] => .error (src.atPeek [] .eofWhileParsingValue)
  | '"' :: cs => do
    let (s, after) ← readString src [] cs
    src.check (choose options s) after
  | r => .error (src.mismatch "variant identifier" r)

/-- Whether another item of an array follows, after a first one unless `first`:
the characters where it starts, or none at the closing bracket. -/
def nextItem (src : Source) (first : Bool) (rest : Chars) : Except Error (Option Chars) :=
  match skipBlank rest with
  | [] => .error (src.atPeek [] .eofWhileParsingList)
  | ']' :: _ => .ok none
  | c :: cs =>
    if first then .ok (some (c :: cs))
    else if c = ',' then
      match skipBlank cs with
      | ']' :: r => .error (src.atPeek (']' :: r) .trailingComma)
      | [] => .error (src.atPeek [] .eofWhileParsingValue)
      | r => .ok (some r)
    else .error (src.atPeek (c :: cs) .expectedListCommaOrEnd)

/-- The closing bracket of an array whose items were all read. -/
def closeList (src : Source) (rest : Chars) : Except Error Chars :=
  match skipBlank rest with
  | ']' :: cs => .ok cs
  | ',' :: cs =>
    match skipBlank cs with
    | ']' :: r => .error (src.atPeek (']' :: r) .trailingComma)
    | r => .error (src.atPeek r .trailingCharacters)
  | [] => .error (src.atPeek [] .eofWhileParsingList)
  | r => .error (src.atPeek r .trailingCharacters)

/-- The closing brace of an object whose members were all read. -/
def closeObject (src : Source) (rest : Chars) : Except Error Chars :=
  match skipBlank rest with
  | '}' :: cs => .ok cs
  | ',' :: cs => .error (src.atPeek (',' :: cs) .trailingComma)
  | [] => .error (src.atPeek [] .eofWhileParsingObject)
  | r => .error (src.atPeek r .trailingCharacters)

/-- The items of an array, each read by `read`, up to the closing bracket. -/
def readItems (src : Source) (read : Chars → Except Error (γ × Chars)) : Nat → Bool → Chars → Except Error (List γ × Chars)
  | 0, _, rest => .ok ([], rest)
  | fuel + 1, first, rest => do
    match ← nextItem src first rest with
    | none => pure ([], rest)
    | some r =>
      let (x, r) ← read r
      let (xs, r) ← readItems src read fuel false r
      pure (x :: xs, r)

/-- An array of strings. -/
def readTexts (src : Source) (rest : Chars) : Except Error (List String × Chars) :=
  match skipBlank rest with
  | [] => .error (src.atPeek [] .eofWhileParsingValue)
  | '[' :: cs => do
    let (xs, r) ← readItems src (readText src) (cs.length + 1) true cs
    let r ← closeList src r
    pure (xs, r)
  | r => .error (src.mismatch "a sequence" r)

/-- One alternative: its name as a string, or an object holding the name as its
only key with `null` as the value. -/
def readChoice (src : Source) (options : List (String × β)) (rest : Chars) : Except Error (β × Chars) :=
  match skipBlank rest with
  | '{' :: cs => do
    let (b, r) ← readName src options cs
    let r ← colon src r
    let r ← readUnit src r
    match skipBlank r with
    | '}' :: more => pure (b, more)
    | [] => throw (src.here [] .eofWhileParsingObject)
    | r => throw (src.here r .expectedSomeValue)
  | '"' :: cs => readName src options ('"' :: cs)
  | [] => .error (src.atPeek [] .eofWhileParsingValue)
  | r => .error (src.atPeek r .expectedSomeValue)

/-- An unsigned integer up to `max`. -/
def readNatural (src : Source) (max : Nat) (name : String) (rest : Chars) : Except Error (Nat × Chars) :=
  match skipBlank rest with
  | [] => .error (src.atPeek [] .eofWhileParsingValue)
  | '-' :: cs => do
    let (n, after) ← readNumber src false cs
    src.check (naturalOf max name n) after
  | c :: cs =>
    if isDigit c then do
      let (n, after) ← readNumber src true (c :: cs)
      src.check (naturalOf max name n) after
    else .error (src.mismatch name (c :: cs))

/-- A boolean. -/
def readFlag (src : Source) (rest : Chars) : Except Error (Bool × Chars) :=
  match skipBlank rest with
  | [] => .error (src.atPeek [] .eofWhileParsingValue)
  | 't' :: cs => (word src ['r', 'u', 'e'] cs).map (true, ·)
  | 'f' :: cs => (word src ['a', 'l', 's', 'e'] cs).map (false, ·)
  | r => .error (src.mismatch "a boolean" r)

/-- Read a value of a shape, skipping the blanks before it. -/
def Shape.read (src : Source) : Shape β → Chars → Except Error (β × Chars)
  | .text, rest => readText src rest
  | .optionalText, rest =>
    match skipBlank rest with
    | 'n' :: cs => (word src ['u', 'l', 'l'] cs).map (none, ·)
    | r => (readText src r).map fun (s, after) => (some s, after)
  | .flag, rest => readFlag src rest
  | .natural max name, rest => readNatural src max name rest
  | .texts, rest => readTexts src rest
  | .choice options, rest => readChoice src options rest

/-- The next key of an object, after a first member unless `first`; none at
the closing brace. -/
def nextKey (src : Source) (first : Bool) (rest : Chars) : Except Error (Option String × Chars) := do
  let start ← match skipBlank rest with
    | '}' :: _ => pure none
    | ',' :: cs => pure (some (if first then ',' :: cs else skipBlank cs))
    | [] => throw (src.atPeek [] .eofWhileParsingObject)
    | r => if first then pure (some r) else throw (src.atPeek r .expectedObjectCommaOrEnd)
  match start with
  | none => pure (none, rest)
  | some r =>
    match r with
    | '"' :: cs => do
      let (k, after) ← readString src [] cs
      pure (some k, after)
    | '}' :: _ => throw (src.atPeek r .trailingComma)
    | [] => throw (src.atPeek [] .eofWhileParsingValue)
    | _ => throw (src.atPeek r .keyMustBeAString)

/-- Where the closing of an object leaves the text: past blanks and a brace. -/
def pastClose (rest : Chars) : Chars :=
  match skipBlank rest with
  | '}' :: cs => cs
  | r => r

/-- Members of an object into a record; `seen` holds the fields already set,
unknown keys have their values skipped. -/
def Record.readMembers (r : Record α) (src : Source) :
    Nat → List String → Bool → α → Chars → Except Error (α × Chars)
  | 0, _, _, a, rest => .ok (a, rest)
  | fuel + 1, seen, first, a, rest => do
    let (key, rest) ← nextKey src first rest
    match key with
    | none => pure (a, rest)
    | some k =>
      match r.field? k with
      | some f =>
        if k ∈ seen then throw (src.place (pastClose rest) ⟨.duplicateField k, none⟩)
        let rest ← colon src rest
        let (b, rest) ← f.shape.read src rest
        r.readMembers src fuel (k :: seen) false (f.store b a) rest
      | none =>
        let rest ← colon src rest
        let rest ← skipValue src (rest.length + 1) [] rest
        r.readMembers src fuel seen false a rest

/-- Items of an array into a record's fields, in order. -/
def readFieldItems (src : Source) : List (Field α) → Bool → α → Chars → Except Error (α × Chars)
  | [], _, a, rest => .ok (a, rest)
  | f :: fs, first, a, rest => do
    match ← nextItem src first rest with
    | none => pure (a, rest)
    | some s =>
      let (b, s) ← f.shape.read src s
      readFieldItems src fs false (f.store b a) s

/-- Read a record from an object or an array, starting from `default`. -/
def Record.read (r : Record α) (src : Source) (default : α) (rest : Chars) : Except Error (α × Chars) :=
  match skipBlank rest with
  | [] => .error (src.atPeek [] .eofWhileParsingValue)
  | '[' :: cs => do
    let (a, s) ← readFieldItems src r.fields true default cs
    let s ← closeList src s
    pure (a, s)
  | '{' :: cs => do
    let (a, s) ← r.readMembers src (cs.length + 1) [] true default cs
    let s ← closeObject src s
    pure (a, s)
  | s => .error (src.mismatch r.title s)

/-- Decode a whole text as a record: one value, then only blanks. -/
def Record.parse (r : Record α) (default : α) (text : String) : Except Error α := do
  let src := Source.ofString text
  let (a, rest) ← r.read src default src.chars
  match skipBlank rest with
  | [] => pure a
  | s => throw (src.atPeek s .trailingCharacters)

end SyslogRelay.Json
