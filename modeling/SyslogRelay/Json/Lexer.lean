import SyslogRelay.Json.Error
import SyslogRelay.Text.Utf8

namespace SyslogRelay.Json

open SyslogRelay.Text SyslogRelay.Decimal

abbrev Chars := List Char

/-- The whole text being read, for placing errors. -/
structure Source where
  chars : Chars
  size : Nat

def Source.ofString (s : String) : Source := ⟨s.toList, s.utf8ByteSize⟩

/-- Line (from 1) and column (bytes after the last line feed) of a byte offset. -/
def Source.position (src : Source) (index : Nat) : Nat × Nat :=
  go src.chars 0 1 0
where
  go : Chars → Nat → Nat → Nat → Nat × Nat
    | [], _, line, start => (line, index - start)
    | c :: cs, off, line, start =>
      if off ≥ index then (line, index - start)
      else if c = '\n' then go cs (off + 1) (line + 1) (off + 1)
      else go cs (off + c.utf8Size) line start

/-- Byte offset of the unread characters. -/
def Source.index (src : Source) (rest : Chars) : Nat := src.size - byteSize rest

def Source.errorAt (src : Source) (index : Nat) (p : Problem) : Error :=
  ⟨p, some (src.position index)⟩

/-- An error at the byte about to be read. -/
def Source.here (src : Source) (rest : Chars) (c : Code) : Error :=
  src.errorAt (src.index rest) (.malformed c)

/-- An error one byte past the byte about to be read. -/
def Source.atPeek (src : Source) (rest : Chars) (c : Code) : Error :=
  src.errorAt (min src.size (src.index rest + 1)) (.malformed c)

/-- An error one byte past the next character, which was taken. -/
def Source.afterOne (src : Source) (rest : Chars) (c : Code) : Error :=
  src.errorAt (src.index rest + 1) (.malformed c)

/-- Give an error that has no place yet the place of the byte about to be read. -/
def Source.place (src : Source) (rest : Chars) (e : Error) : Error :=
  match e.position with
  | some _ => e
  | none => src.errorAt (src.index rest) e.problem

/-- Skip spaces, tabs, line feeds and carriage returns. -/
def skipBlank : Chars → Chars
  | ' ' :: cs => skipBlank cs
  | '\n' :: cs => skipBlank cs
  | '\t' :: cs => skipBlank cs
  | '\r' :: cs => skipBlank cs
  | cs => cs

/-- Read the rest of a literal word such as `rue` after `t`. -/
def word (src : Source) : Chars → Chars → Except Error Chars
  | [], rest => .ok rest
  | _ :: _, [] => .error (src.here [] .eofWhileParsingValue)
  | w :: ws, c :: cs =>
    if c = w then word src ws cs else .error (src.afterOne (c :: cs) .expectedSomeIdent)

def isDigit (c : Char) : Bool := '0' ≤ c && c ≤ '9'

def digitValue (c : Char) : Nat := c.toNat - 48

/-- Four hexadecimal digits of a `\u` escape. Fewer than four bytes left is the
end of the text inside a string; four bytes that are not all hex digits are an
invalid escape, placed after them. -/
def hex4 (src : Source) (rest : Chars) : Except Error (Nat × Chars) :=
  match rest with
  | a :: b :: c :: d :: more =>
    match hexDigit? a, hexDigit? b, hexDigit? c, hexDigit? d with
    | some x, some y, some z, some w => .ok (((x * 16 + y) * 16 + z) * 16 + w, more)
    | _, _, _, _ => .error (src.errorAt (src.index rest + 4) (.malformed .invalidEscape))
  | _ =>
    if byteSize rest ≥ 4 then .error (src.errorAt (src.index rest + 4) (.malformed .invalidEscape))
    else .error (src.errorAt src.size (.malformed .eofWhileParsingString))

/-- The rest of a `\u` escape: a code point, or a pair of UTF-16 surrogates
written as two escapes. A trailing surrogate alone, or a leading one without its
partner, is refused. -/
def unicodeEscape (src : Source) (rest : Chars) : Except Error (Char × Chars) := do
  let (n, rest) ← hex4 src rest
  if 0xDC00 ≤ n ∧ n ≤ 0xDFFF then
    throw (src.here rest .loneLeadingSurrogateInHexEscape)
  if n < 0xD800 ∨ n > 0xDBFF then return (Char.ofNat n, rest)
  match rest with
  | [] => throw (src.here [] .eofWhileParsingString)
  | '\\' :: rest =>
    match rest with
    | [] => throw (src.here [] .eofWhileParsingString)
    | 'u' :: rest =>
      let (n2, rest) ← hex4 src rest
      if n2 < 0xDC00 ∨ n2 > 0xDFFF then
        throw (src.here rest .loneLeadingSurrogateInHexEscape)
      return (Char.ofNat (((n - 0xD800) * 0x400 + (n2 - 0xDC00)) + 0x10000), rest)
    | c :: cs => throw (src.afterOne (c :: cs) .unexpectedEndOfHexEscape)
  | c :: cs => throw (src.afterOne (c :: cs) .unexpectedEndOfHexEscape)

theorem hex4_shorter {src : Source} {rest more : Chars} {n : Nat}
    (h : hex4 src rest = .ok (n, more)) : more.length + 4 ≤ rest.length := by
  unfold hex4 at h
  split at h
  · split at h
    · simp only [Except.ok.injEq, Prod.mk.injEq] at h
      obtain ⟨_, rfl⟩ := h
      simp
    · simp at h
  · split at h <;> simp at h

theorem unicodeEscape_shorter {src : Source} {rest more : Chars} {x : Char}
    (h : unicodeEscape src rest = .ok (x, more)) : more.length < rest.length := by
  unfold unicodeEscape at h
  simp only [bind, Except.bind, pure, Except.pure, throw, throwThe, MonadExceptOf.throw] at h
  split at h
  · simp at h
  · rename_i p h1
    have hr := hex4_shorter h1
    split at h
    · simp at h
    · split at h
      · simp only [Except.ok.injEq, Prod.mk.injEq] at h
        obtain ⟨-, rfl⟩ := h
        omega
      · split at h
        · simp at h
        · split at h
          · simp at h
          · split at h
            · simp at h
            · rename_i q h2
              have hr2 := hex4_shorter h2
              split at h
              · simp at h
              · simp only [Except.ok.injEq, Prod.mk.injEq] at h
                obtain ⟨-, rfl⟩ := h
                rename_i hp _ _
                rw [hp] at hr
                simp only [List.length_cons] at hr
                omega
          · simp at h
        · simp at h

/-- The character a one-letter escape stands for. -/
def simpleEscape? (c : Char) : Option Char :=
  if c = '"' then some '"'
  else if c = '\\' then some '\\'
  else if c = '/' then some '/'
  else if c = 'b' then some '\x08'
  else if c = 'f' then some '\x0c'
  else if c = 'n' then some '\n'
  else if c = 'r' then some '\r'
  else if c = 't' then some '\t'
  else none

/-- Read a string after its opening quote; `acc` holds the characters so far,
reversed. Control characters must be escaped. -/
def readString (src : Source) (acc : Chars) (rest : Chars) : Except Error (String × Chars) :=
  match rest with
  | [] => .error (src.here [] .eofWhileParsingString)
  | c :: cs =>
    if c = '"' then .ok (String.ofList acc.reverse, cs)
    else if c = '\\' then
      match cs with
      | [] => .error (src.here [] .eofWhileParsingString)
      | e :: es =>
        match simpleEscape? e with
        | some x => readString src (x :: acc) es
        | none =>
          if e = 'u' then
            match h : unicodeEscape src es with
            | .ok (x, more) =>
              have := unicodeEscape_shorter h
              readString src (x :: acc) more
            | .error err => .error err
          else .error (src.afterOne (e :: es) .invalidEscape)
    else if c.toNat < 0x20 then .error (src.afterOne (c :: cs) .controlCharacterWhileParsingString)
    else readString src (c :: acc) cs
termination_by rest.length

/-- Skip a string after its opening quote, checking its escapes. -/
def skipString (src : Source) (rest : Chars) : Except Error Chars :=
  match rest with
  | [] => .error (src.here [] .eofWhileParsingString)
  | c :: cs =>
    if c = '"' then .ok cs
    else if c = '\\' then
      match cs with
      | [] => .error (src.here [] .eofWhileParsingString)
      | e :: es =>
        match simpleEscape? e with
        | some _ => skipString src es
        | none =>
          if e = 'u' then
            match h : hex4 src es with
            | .ok (_, more) =>
              have := hex4_shorter h
              skipString src more
            | .error err => .error err
          else .error (src.afterOne (e :: es) .invalidEscape)
    else if c.toNat < 0x20 then .error (src.here (c :: cs) .controlCharacterWhileParsingString)
    else skipString src cs
termination_by rest.length

/-! ### Numbers -/

def u64Max : Nat := Nat.pow 2 64 - 1

def i32Max : Int := Int.pow 2 31 - 1

/-- Clamp to the 32-bit signed range. -/
def clampI32 (n : Int) : Int := max (-Int.pow 2 31) (min n i32Max)

/-- Scale a significand by a power of ten in floating point, each step rounded;
very small exponents divide by 1e308 until the power fits. -/
def scaleFloat (src : Source) (rest : Chars) (positive : Bool) (sig : Nat) (exp : Int) :
    Except Error Binary64 :=
  go (Binary64.ofNat sig) exp 8
where
  go (f : Binary64) (exp : Int) : Nat → Except Error Binary64
    | 0 => .ok (if positive then f else f.negate)
    | fuel + 1 =>
      if exp.natAbs ≤ 308 then
        if exp ≥ 0 then
          let g := f.mul (Binary64.ofDecimal false 1 exp)
          if g.isInfinite then .error (src.here rest .numberOutOfRange)
          else .ok (if positive then g else g.negate)
        else
          let g := f.div (Binary64.ofDecimal false 1 exp.natAbs)
          .ok (if positive then g else g.negate)
      else if f.isZero then .ok (if positive then f else f.negate)
      else if exp ≥ 0 then .error (src.here rest .numberOutOfRange)
      else go (f.div (Binary64.ofDecimal false 1 308)) (exp + 308) fuel

/-- Skip the digits of an exponent too large to matter. A positive exponent of a
nonzero significand is out of range; otherwise the value is zero. -/
def exponentOverflow (src : Source) (positive zeroSig positiveExp : Bool) (rest : Chars) :
    Except Error (Binary64 × Chars) :=
  if !zeroSig && positiveExp then .error (src.here rest .numberOutOfRange)
  else .ok (Binary64.zero (!positive), rest.dropWhile isDigit)

/-- Digits of an exponent after its first digit. -/
def exponentDigits (src : Source) (positive zeroSig positiveExp : Bool) (sig : Nat) (start : Int) :
    Int → Chars → Except Error (Binary64 × Chars)
  | e, c :: cs =>
    if isDigit c then
      let e' := e * 10 + digitValue c
      if e' > i32Max then exponentOverflow src positive zeroSig positiveExp cs
      else exponentDigits src positive zeroSig positiveExp sig start e' cs
    else
      let final := clampI32 (if positiveExp then start + e else start - e)
      (scaleFloat src (c :: cs) positive sig final).map (·, c :: cs)
  | e, [] =>
    let final := clampI32 (if positiveExp then start + e else start - e)
    (scaleFloat src [] positive sig final).map (·, [])

/-- An exponent: `e` or `E` (the first character of `rest`), a sign, digits. -/
def readExponent (src : Source) (positive : Bool) (sig : Nat) (start : Int) (rest : Chars) :
    Except Error (Binary64 × Chars) :=
  let rest := rest.drop 1
  let (positiveExp, rest) := match rest with
    | '+' :: cs => (true, cs)
    | '-' :: cs => (false, cs)
    | cs => (true, cs)
  match rest with
  | [] => .error (src.here [] .eofWhileParsingValue)
  | c :: cs =>
    if isDigit c then exponentDigits src positive (sig = 0) positiveExp sig start (digitValue c) cs
    else .error (src.afterOne (c :: cs) .invalidNumber)

/-- End of a number's digits: an exponent may follow, otherwise scale. -/
def finishFloat (src : Source) (positive : Bool) (sig : Nat) (exp : Int) (rest : Chars) :
    Except Error (Binary64 × Chars) :=
  match rest with
  | c :: _ =>
    if c = 'e' ∨ c = 'E' then readExponent src positive sig exp rest
    else (scaleFloat src rest positive sig exp).map (·, rest)
  | [] => (scaleFloat src rest positive sig exp).map (·, rest)

/-- Digits after the point; `after` counts them (negated). A significand that
would pass 64 bits keeps its value and drops the remaining digits. -/
def fractionDigits (src : Source) (positive : Bool) (before : Int) :
    Nat → Int → Chars → Except Error (Binary64 × Chars)
  | sig, after, c :: cs =>
    if isDigit c then
      let sig' := sig * 10 + digitValue c
      if sig' > u64Max then finishFloat src positive sig (before + after) ((c :: cs).dropWhile isDigit)
      else fractionDigits src positive before sig' (after - 1) cs
    else if after = 0 then .error (src.atPeek (c :: cs) .invalidNumber)
    else finishFloat src positive sig (before + after) (c :: cs)
  | sig, after, [] =>
    if after = 0 then .error (src.atPeek [] .eofWhileParsingValue)
    else finishFloat src positive sig (before + after) []

/-- A fraction: the point is the first character of `rest`. -/
def readFraction (src : Source) (positive : Bool) (sig : Nat) (before : Int) (rest : Chars) :
    Except Error (Binary64 × Chars) :=
  fractionDigits src positive before sig 0 (rest.drop 1)

/-- Digits of an integer past 64 bits: each raises the exponent by one. -/
def longDigits (src : Source) (positive : Bool) (sig : Nat) : Int → Chars → Except Error (Binary64 × Chars)
  | exp, c :: cs =>
    if isDigit c then longDigits src positive sig (exp + 1) cs
    else if c = '.' then readFraction src positive sig exp (c :: cs)
    else if c = 'e' ∨ c = 'E' then readExponent src positive sig exp (c :: cs)
    else (scaleFloat src (c :: cs) positive sig exp).map (·, c :: cs)
  | exp, [] => (scaleFloat src [] positive sig exp).map (·, [])

/-- After an integer's digits: a fraction or exponent makes it a float; a
negative integer below -2^63, or minus zero, is a float too. -/
def finishNumber (src : Source) (positive : Bool) (sig : Nat) (rest : Chars) : Except Error (Number × Chars) :=
  let asFloat (r : Except Error (Binary64 × Chars)) : Except Error (Number × Chars) := r.map (fun (x, rest) => (.float x, rest))
  match rest with
  | c :: _ =>
    if c = '.' then asFloat (readFraction src positive sig 0 rest)
    else if c = 'e' ∨ c = 'E' then asFloat (readExponent src positive sig 0 rest)
    else if positive then .ok (.unsigned sig, rest)
    else if sig = 0 ∨ sig > Nat.pow 2 63 then .ok (.float (Binary64.ofNat sig).negate, rest)
    else .ok (.signed (-(sig : Int)), rest)
  | [] =>
    if positive then .ok (.unsigned sig, rest)
    else if sig = 0 ∨ sig > Nat.pow 2 63 then .ok (.float (Binary64.ofNat sig).negate, rest)
    else .ok (.signed (-(sig : Int)), rest)

/-- Digits of an integer after its first. -/
def integerDigits (src : Source) (positive : Bool) : Nat → Chars → Except Error (Number × Chars)
  | sig, c :: cs =>
    if isDigit c then
      let sig' := sig * 10 + digitValue c
      if sig' > u64Max then
        (longDigits src positive sig 0 (c :: cs)).map (fun (x, rest) => (.float x, rest))
      else integerDigits src positive sig' cs
    else finishNumber src positive sig (c :: cs)
  | sig, [] => finishNumber src positive sig []

/-- A number after its sign: one leading zero at most. -/
def readNumber (src : Source) (positive : Bool) (rest : Chars) : Except Error (Number × Chars) :=
  match rest with
  | [] => .error (src.here [] .eofWhileParsingValue)
  | '0' :: cs =>
    match cs with
    | d :: _ => if isDigit d then .error (src.atPeek cs .invalidNumber) else finishNumber src positive 0 cs
    | [] => finishNumber src positive 0 cs
  | c :: cs =>
    if isDigit c then integerDigits src positive (digitValue c) cs
    else .error (src.afterOne (c :: cs) .invalidNumber)

/-! ### Skipping whole values -/

/-- Skip an exponent of a skipped number: the `e` is the first character. -/
def skipExponent (src : Source) (rest : Chars) : Except Error Chars :=
  let rest := rest.drop 1
  let rest := match rest with
    | '+' :: cs => cs
    | '-' :: cs => cs
    | cs => cs
  match rest with
  | [] => .error (src.here [] .invalidNumber)
  | c :: cs => if isDigit c then .ok (cs.dropWhile isDigit) else .error (src.afterOne (c :: cs) .invalidNumber)

/-- Skip a number's tail: a fraction and an exponent. -/
def skipNumberTail (src : Source) (rest : Chars) : Except Error Chars :=
  match rest with
  | '.' :: cs =>
    let ds := cs.takeWhile isDigit
    let more := cs.dropWhile isDigit
    if ds.isEmpty then .error (src.atPeek cs .invalidNumber)
    else
      match more with
      | c :: _ => if c = 'e' ∨ c = 'E' then skipExponent src more else .ok more
      | [] => .ok more
  | c :: _ => if c = 'e' ∨ c = 'E' then skipExponent src rest else .ok rest
  | [] => .ok rest

/-- Skip a number after its sign. -/
def skipNumber (src : Source) (rest : Chars) : Except Error Chars :=
  match rest with
  | [] => .error (src.here [] .invalidNumber)
  | '0' :: cs =>
    match cs with
    | d :: _ => if isDigit d then .error (src.atPeek cs .invalidNumber) else skipNumberTail src cs
    | [] => .ok []
  | c :: cs =>
    if isDigit c then skipNumberTail src (cs.dropWhile isDigit)
    else .error (src.afterOne (c :: cs) .invalidNumber)

/-- Closing brackets after a skipped value: `frame` is the innermost open bracket,
`stack` the ones around it. Answers the bracket still open and whether a
comma was taken (a member follows), or none when the outermost value ended. -/
def skipClose (src : Source) : Nat → Bool → Char → List Char → Chars → Except Error (Option (Char × List Char) × Chars)
  | 0, _, _, _, rest => .ok (none, rest)
  | fuel + 1, acceptComma, frame, stack, rest =>
    let rest := skipBlank rest
    match rest with
    | [] => .error (src.atPeek [] (if frame = '[' then .eofWhileParsingList else .eofWhileParsingObject))
    | c :: cs =>
      if c = ',' ∧ acceptComma then .ok (some (frame, stack), cs)
      else if (c = ']' ∧ frame = '[') ∨ (c = '}' ∧ frame = '{') then
        match stack with
        | [] => .ok (none, cs)
        | f :: fs => skipClose src fuel true f fs cs
      else if acceptComma then
        .error (src.atPeek rest (if frame = '[' then .expectedListCommaOrEnd else .expectedObjectCommaOrEnd))
      else .ok (some (frame, stack), rest)

/-- Skip one whole value of any depth, checking that it is well formed. `open_`
holds the open brackets, innermost first. -/
def skipValue (src : Source) : Nat → List Char → Chars → Except Error Chars
  | 0, _, rest => .ok rest
  | fuel + 1, stack, rest => do
    let rest := skipBlank rest
    let (opened, rest) ← match rest with
      | [] => throw (src.atPeek [] .eofWhileParsingValue)
      | c :: cs =>
        if c = 'n' then do let r ← word src ['u', 'l', 'l'] cs; pure (none, r)
        else if c = 't' then do let r ← word src ['r', 'u', 'e'] cs; pure (none, r)
        else if c = 'f' then do let r ← word src ['a', 'l', 's', 'e'] cs; pure (none, r)
        else if c = '-' then do let r ← skipNumber src cs; pure (none, r)
        else if isDigit c then do let r ← skipNumber src rest; pure (none, r)
        else if c = '"' then do let r ← skipString src cs; pure (none, r)
        else if c = '[' ∨ c = '{' then pure (some c, cs)
        else throw (src.atPeek rest .expectedSomeValue)
    let (next, rest) ← match opened with
      | some b => skipClose src (fuel + 1) false b stack rest
      | none =>
        match stack with
        | [] => pure (none, rest)
        | f :: fs => skipClose src (fuel + 1) true f fs rest
    match next with
    | none => pure rest
    | some (frame, outer) =>
      let rest ← if frame = '{' then do
          let rest := skipBlank rest
          let rest ← match rest with
            | '"' :: cs => skipString src cs
            | [] => throw (src.atPeek [] .eofWhileParsingObject)
            | _ => throw (src.atPeek rest .keyMustBeAString)
          let rest := skipBlank rest
          match rest with
          | ':' :: cs => pure cs
          | [] => throw (src.atPeek [] .eofWhileParsingObject)
          | _ => throw (src.atPeek rest .expectedColon)
        else pure rest
      skipValue src fuel (frame :: outer) rest

end SyslogRelay.Json
