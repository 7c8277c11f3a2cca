/-!
IEEE 754 binary64 values by their bits, read from decimals and written back in
the fewest digits, in exact `Nat` arithmetic on `m * 2 ^ q`.
-/

namespace SyslogRelay.Decimal

/-- A binary64 value given by its 64 bits. -/
structure Binary64 where
  bits : UInt64
  deriving DecidableEq, Repr, Inhabited

/-- A finite binary64 value split into sign, significand and binary exponent:
the value is `(-1)^neg * m * 2^q`. -/
structure Dyadic where
  neg : Bool
  m : Nat
  q : Int
  deriving DecidableEq, Repr

/-- What a binary64 value is. -/
inductive Class
  | finite (d : Dyadic)
  | infinite (neg : Bool)
  | nan
  deriving DecidableEq, Repr

/-- Number of binary digits of `n` (zero has none). -/
def bitLength (n : Nat) : Nat :=
  if h : n = 0 then 0 else bitLength (n / 2) + 1
termination_by n
decreasing_by omega

/-- Number of decimal digits of `n`; zero has one. -/
def decimalLength (n : Nat) : Nat :=
  if n < 10 then 1 else decimalLength (n / 10) + 1
termination_by n
decreasing_by omega

/-- `n / d` rounded to the nearest integer, a half going to the even one. -/
def roundHalfEven (n d : Nat) : Nat :=
  let q := n / d
  let r := n % d
  if 2 * r < d then q
  else if 2 * r > d then q + 1
  else if q % 2 = 0 then q else q + 1

/-- How a printer breaks an exact tie between two equally near decimals. -/
inductive Tie
  /-- The one whose last digit is even. -/
  | toEven
  /-- The one of larger magnitude. -/
  | up
  deriving DecidableEq, Repr

/-- `n / d` rounded to the nearest integer, a half going as `tie` says. -/
def roundHalf (tie : Tie) (n d : Nat) : Nat :=
  match tie with
  | .toEven => roundHalfEven n d
  | .up => if 2 * (n % d) < d then n / d else n / d + 1

example : roundHalf .up 5 2 = 3 ∧ roundHalf .toEven 5 2 = 2 := by decide

namespace Binary64

def signBit (x : Binary64) : Bool := x.bits >>> 63 == 1

def exponentField (x : Binary64) : Nat := ((x.bits >>> 52) &&& 0x7FF).toNat

def fractionField (x : Binary64) : Nat := (x.bits &&& 0xFFFFFFFFFFFFF).toNat

/-- Classify the bits: zero and subnormals have exponent field 0, infinities and
NaNs have it all ones. -/
def classify (x : Binary64) : Class :=
  let e := x.exponentField
  let f := x.fractionField
  if e = 2047 then (if f = 0 then .infinite x.signBit else .nan)
  else if e = 0 then .finite ⟨x.signBit, f, -1074⟩
  else .finite ⟨x.signBit, f + Nat.pow 2 52, (e : Int) - 1075⟩

/-- Assemble bits from a sign, a biased exponent field and a fraction field. -/
def assemble (neg : Bool) (e f : Nat) : Binary64 :=
  ⟨((if neg then 1 else 0 : UInt64) <<< 63) ||| ((e.toUInt64 &&& 0x7FF) <<< 52) |||
    (f.toUInt64 &&& 0xFFFFFFFFFFFFF)⟩

def infinity (neg : Bool) : Binary64 := assemble neg 2047 0

def zero (neg : Bool) : Binary64 := assemble neg 0 0

/-- The binary64 nearest to `n / d` (with `d > 0`), ties to even, for a positive
rational; too large values become infinity. -/
def ofRatio (neg : Bool) (n d : Nat) : Binary64 :=
  if n = 0 ∨ d = 0 then zero neg
  else
    -- t = floor (log2 (n / d))
    let t0 : Int := (bitLength n : Int) - (bitLength d : Int)
    let t : Int :=
      if t0 ≥ 0 then (if n < d * Nat.pow 2 t0.toNat then t0 - 1 else t0)
      else (if n * Nat.pow 2 (-t0).toNat < d then t0 - 1 else t0)
    let q : Int := max (t - 52) (-1074)
    let m :=
      if q ≥ 0 then roundHalfEven n (d * Nat.pow 2 q.toNat)
      else roundHalfEven (n * Nat.pow 2 (-q).toNat) d
    let (m, q) := if m = Nat.pow 2 53 then (Nat.pow 2 52, q + 1) else (m, q)
    if m < Nat.pow 2 52 then assemble neg 0 m
    else
      let e := q + 1075
      if e ≥ 2047 then infinity neg
      else assemble neg e.toNat (m - Nat.pow 2 52)

/-- The binary64 nearest to `m * 10^e`. -/
def ofDecimal (neg : Bool) (m : Nat) (e : Int) : Binary64 :=
  if e ≥ 0 then ofRatio neg (m * Nat.pow 10 e.toNat) 1
  else ofRatio neg m (Nat.pow 10 (-e).toNat)

/-- The binary64 nearest to a natural number. -/
def ofNat (n : Nat) : Binary64 := ofRatio false n 1

/-- A finite value as a sign and a ratio of naturals. -/
def toRatio? (x : Binary64) : Option (Bool × Nat × Nat) :=
  match x.classify with
  | .finite d => some (d.neg, d.m * Nat.pow 2 d.q.toNat, Nat.pow 2 (-d.q).toNat)
  | _ => none

def isInfinite (x : Binary64) : Bool :=
  match x.classify with
  | .infinite _ => true
  | _ => false

def isZero (x : Binary64) : Bool := x.exponentField = 0 ∧ x.fractionField = 0

/-- The value with its sign flipped. -/
def negate (x : Binary64) : Binary64 := ⟨x.bits ^^^ 0x8000000000000000⟩

/-- Product of two finite values rounded to nearest, as the hardware computes it;
an infinite result when it is too large. -/
def mul (x y : Binary64) : Binary64 :=
  match x.toRatio?, y.toRatio? with
  | some (s, a, b), some (t, c, d) => ofRatio (s != t) (a * c) (b * d)
  | _, _ => infinity false

/-- Quotient of two finite values rounded to nearest; the divisor is nonzero. -/
def div (x y : Binary64) : Binary64 :=
  match x.toRatio?, y.toRatio? with
  | some (s, a, b), some (t, c, d) => ofRatio (s != t) (a * d) (b * c)
  | _, _ => infinity false

/-- Sum of two finite values of the same sign, rounded to nearest. -/
def addSameSign (x y : Binary64) : Binary64 :=
  match x.toRatio?, y.toRatio? with
  | some (s, a, b), some (_, c, d) => ofRatio s (a * d + c * b) (b * d)
  | _, _ => infinity false

/-- Whether the finite value `x` is below the finite value `y`. -/
def lt (x y : Binary64) : Bool :=
  match x.toRatio?, y.toRatio? with
  | some (s, a, b), some (t, c, d) =>
    let signed (neg : Bool) (n : Nat) : Int := if neg then -(n : Int) else n
    signed s a * d < signed t c * b
  | _, _ => false

end Binary64

/-- A decimal `digits * 10^exp` whose digit string has no trailing zero. -/
structure Shortest where
  digits : Nat
  exp : Int
  deriving DecidableEq, Repr

/-- Drop trailing zeros of the digit string, moving them into the exponent. -/
def Shortest.normalize (digits : Nat) (exp : Int) (fuel : Nat) : Shortest :=
  match fuel with
  | 0 => ⟨digits, exp⟩
  | fuel + 1 =>
    if digits ≠ 0 ∧ digits % 10 = 0 then Shortest.normalize (digits / 10) (exp + 1) fuel
    else ⟨digits, exp⟩

/-- Compare `a * 10^k * 2^j` with `b` for integers `k j`, by cross-multiplying. -/
def scaled (k j : Int) : Nat × Nat :=
  ((Nat.pow 10 k.toNat) * (Nat.pow 2 j.toNat), (Nat.pow 10 (-k).toNat) * (Nat.pow 2 (-j).toNat))

/-- Floor of `log10` of the positive value `m * 2^q`. -/
def log10Floor (m : Nat) (q : Int) : Int :=
  let num := m * Nat.pow 2 q.toNat
  let den := Nat.pow 2 (-q).toNat
  let e0 : Int := (decimalLength num : Int) - (decimalLength den : Int)
  let le (e : Int) : Bool :=
    if e ≥ 0 then Nat.pow 10 e.toNat * den ≤ num else den ≤ num * Nat.pow 10 (-e).toNat
  if le (e0 + 1) then e0 + 1 else if le e0 then e0 else e0 - 1

/-- Fewest digits for a positive finite value `m * 2^q`. `asymmetric` says the
gap below is half the gap above (a power of two with a smaller neighbour); `tie`
picks between two grid points equally near the value. -/
def shortestOf (tie : Tie) (m : Nat) (q : Int) (asymmetric : Bool) : Shortest :=
  -- interval ends and value, all in units of 2^(q-2)
  let v4 := 4 * m
  let l4 := if asymmetric then 4 * m - 1 else 4 * m - 2
  let h4 := 4 * m + 2
  let closed := m % 2 = 0
  let e10 := log10Floor m q
  let rec search (n : Nat) (fuel : Nat) : Shortest :=
    match fuel with
    | 0 => ⟨m, 0⟩
    | fuel + 1 =>
      -- grid 10^k with k = e10 - n + 1; x * 2^(q-2) / 10^k = x * a / b
      let k : Int := e10 - (n : Int) + 1
      let (a, b) := scaled (-k) (q - 2)
      let lo :=
        let c := (l4 * a + b - 1) / b
        if !closed ∧ c * b = l4 * a then c + 1 else c
      let hi :=
        let c := (h4 * a) / b
        if !closed ∧ c * b = h4 * a then c - 1 else c
      if lo ≤ hi ∧ 0 < hi then
        let near := roundHalf tie (v4 * a) b
        let pick := if near < lo then lo else if near > hi then hi else near
        Shortest.normalize pick k 20
      else search (n + 1) fuel
  search 1 17

/-- Fewest digits of a finite nonzero dyadic value. -/
def Dyadic.shortest (tie : Tie) (d : Dyadic) : Shortest :=
  shortestOf tie d.m d.q (d.m = Nat.pow 2 52 ∧ d.q > -1074)

/-- Decimal digits of a natural number, most significant first. -/
def digitChars (n : Nat) : List Char :=
  (Nat.toDigits 10 n)

/-- How a printer lays out a finite float's shortest digits. Values whose decimal
point falls within `(-lowPoint, highPoint]` digits of the first digit are written
positionally; others in scientific form. -/
structure Layout where
  /-- Positional notation for point positions above `-lowPoint`. -/
  lowPoint : Nat
  /-- Positional notation for point positions up to `highPoint`. -/
  highPoint : Nat
  /-- Mark written before a positive exponent. -/
  plusSign : String
  /-- Text of NaN and of positive infinity. -/
  nanText : String
  infText : String
  /-- Which of two equally near shortest decimals is written. -/
  tie : Tie

/-- Render a binary64 in a layout: `d.ddde±x` or positional with at least one
digit after the point; zero is `0.0`. -/
def render (layout : Layout) (x : Binary64) : String :=
  match x.classify with
  | .nan => layout.nanText
  | .infinite neg => (if neg then "-" else "") ++ layout.infText
  | .finite d =>
    let sign := if d.neg then "-" else ""
    if d.m = 0 then sign ++ "0.0"
    else
      let s := d.shortest layout.tie
      let ds := digitChars s.digits
      let len := ds.length
      let point : Int := (len : Int) + s.exp
      if point > -(layout.lowPoint : Int) ∧ point ≤ (layout.highPoint : Int) then
        if point ≤ 0 then
          sign ++ "0." ++ String.ofList (List.replicate (-point).toNat '0') ++ String.ofList ds
        else if point.toNat ≥ len then
          sign ++ String.ofList ds ++ String.ofList (List.replicate (point.toNat - len) '0') ++ ".0"
        else
          sign ++ String.ofList (ds.take point.toNat) ++ "." ++ String.ofList (ds.drop point.toNat)
      else
        let e := point - 1
        let mant := match ds with
          | [c] => String.singleton c
          | c :: rest => String.singleton c ++ "." ++ String.ofList rest
          | [] => "0"
        let expText := if e < 0 then "-" ++ toString e.natAbs else layout.plusSign ++ toString e.natAbs
        sign ++ mant ++ "e" ++ expText

/-- The layout of a float's debug text: positional from `1e-4` up to below `1e16`;
of two equally near shortest decimals the larger in magnitude is written. -/
def debugLayout : Layout := ⟨4, 16, "", "NaN", "inf", .up⟩

/-- The layout of a float quoted in a decoding error: positional for decimal points
within `(-5, 16]`, an explicit `+` on positive exponents, and ties to the even
last digit. -/
def quotedLayout : Layout := ⟨5, 16, "+", "NaN", "inf", .toEven⟩

end SyslogRelay.Decimal
