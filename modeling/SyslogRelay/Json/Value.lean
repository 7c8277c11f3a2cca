import SyslogRelay.Decimal.Binary64

namespace SyslogRelay.Json

open SyslogRelay.Decimal

/-- A JSON number as a reader classifies it. -/
inductive Number
  | unsigned (n : Nat)
  | signed (n : Int)
  | float (x : Binary64)
  deriving DecidableEq, Repr

/-- A JSON value. -/
inductive Value
  | null
  | bool (b : Bool)
  | number (n : Number)
  | string (s : String)
  | array (xs : List Value)
  | object (fields : List (String × Value))
  deriving Repr, Inhabited

namespace Number

/-- An integer: unsigned if it fits 64 bits, signed if it is negative and fits,
otherwise the nearest float. -/
def ofInt (i : Int) : Number :=
  if 0 ≤ i ∧ i < Int.pow 2 64 then unsigned i.toNat
  else if i < 0 ∧ -Int.pow 2 63 ≤ i then signed i
  else float (Binary64.ofDecimal (i < 0) i.natAbs 0)

/-- A number written with a fraction or an exponent: always a float. -/
def ofDecimal (neg : Bool) (m : Nat) (e : Int) : Number :=
  float (Binary64.ofDecimal neg m e)

end Number

end SyslogRelay.Json
