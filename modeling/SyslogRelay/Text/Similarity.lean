import SyslogRelay.Decimal.Binary64

namespace SyslogRelay.Text

open SyslogRelay.Decimal

/-- Mark the partner of each character of `a` in `b`: for position `i` of `a`,
the first unmatched equal character of `b` within `range` positions. Answers the
flags of `a` and of `b`. -/
def jaroMatches (a b : List Char) (range : Nat) : List Bool × List Bool :=
  let step (acc : List Bool × List Bool × Nat) (c : Char) :=
    let (aFlags, bFlags, i) := acc
    let lo := i - range
    let hi := i + range + 1
    let partner := ((List.range b.length).zip b).find? fun (j, d) =>
      lo ≤ j ∧ j < hi ∧ d = c ∧ bFlags.getD j true = false
    match partner with
    | some (j, _) => (aFlags ++ [true], bFlags.set j true, i + 1)
    | none => (aFlags ++ [false], bFlags, i + 1)
  let (aFlags, bFlags, _) := a.foldl step ([], List.replicate b.length false, 0)
  (aFlags, bFlags)

/-- The matched characters of a text, in order. -/
def matched (cs : List Char) (flags : List Bool) : List Char :=
  (cs.zip flags).filterMap fun (c, f) => if f then some c else none

/-- The Jaro similarity of two texts. -/
def jaro (a b : String) : Binary64 :=
  let a := a.toList
  let b := b.toList
  if a.isEmpty ∧ b.isEmpty then Binary64.ofNat 1
  else if a.isEmpty ∨ b.isEmpty then Binary64.ofNat 0
  else
    let range := max a.length b.length / 2 - 1
    let (aFlags, bFlags) := jaroMatches a b range
    let ma := matched a aFlags
    let mb := matched b bFlags
    let m := ma.length
    let t := ((ma.zip mb).filter fun (x, y) => x ≠ y).length / 2
    if m = 0 then Binary64.ofNat 0
    else
      let sum := Binary64.addSameSign
        (Binary64.addSameSign (Binary64.ofRatio false m a.length) (Binary64.ofRatio false m b.length))
        (Binary64.ofRatio false (m - t) m)
      Binary64.div sum (Binary64.ofNat 3)

/-- The similarity a suggestion must exceed: the binary64 nearest to 0.7. -/
def suggestionThreshold : Binary64 := Binary64.ofDecimal false 7 (-1)

/-- The candidates more similar to `word` than the threshold, least similar
first; of equal ones, the earlier candidate comes first. -/
def similarWords (word : String) (candidates : List String) : List String :=
  let scored := (candidates.map fun c => (jaro word c, c)).filter fun (r, _) =>
    suggestionThreshold.lt r
  (scored.mergeSort fun x y => !(y.1.lt x.1)).map Prod.snd

/-- The candidate most similar to `word`, if any is similar enough; of equal ones the last. -/
def closestWord? (word : String) (candidates : List String) : Option String :=
  (similarWords word candidates).getLast?

end SyslogRelay.Text
