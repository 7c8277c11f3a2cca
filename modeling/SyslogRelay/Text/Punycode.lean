namespace SyslogRelay.Text.Punycode

/-- The bound of the format's arithmetic, 2 to the 32nd: no sum or product may reach it. -/
def limit : Nat := 0x100000000

/-- The most code points a label may have to be encoded. -/
def encodeLimit : Nat := 1000

/-- The most characters a text may have to be decoded. -/
def decodeLimit : Nat := 2000

/-- The character of a digit: `a` to `z` for 0 to 25, `0` to `9` for 26 to 35. -/
def digitChar (d : Nat) : Char :=
  if d < 26 then Char.ofNat (0x61 + d) else Char.ofNat (0x30 + d - 26)

/-- The value of a digit; letters of either case count. -/
def digitValue? (c : Char) : Option Nat :=
  let n := c.toNat
  if 0x61 ≤ n ∧ n ≤ 0x7A then some (n - 0x61)
  else if 0x41 ≤ n ∧ n ≤ 0x5A then some (n - 0x41)
  else if 0x30 ≤ n ∧ n ≤ 0x39 then some (n - 0x30 + 26)
  else none

/-- The threshold of the digit at weight place `k`: between 1 and 26. -/
def threshold (k bias : Nat) : Nat :=
  if k ≤ bias then 1 else if bias + 26 ≤ k then 26 else k - bias

theorem one_le_threshold (k bias : Nat) : 1 ≤ threshold k bias := by
  unfold threshold
  split
  · omega
  · split <;> omega

theorem threshold_le (k bias : Nat) : threshold k bias ≤ 26 := by
  unfold threshold
  split
  · omega
  · split <;> omega

/-- Divide a scaled distance by 35 until it is at most 455, counting 36 for
each division. -/
def shrink (delta k : Nat) : Nat × Nat :=
  if 455 < delta then shrink (delta / 35) (k + 36) else (delta, k)
termination_by delta
decreasing_by exact Nat.div_lt_self (by omega) (by omega)

/-- The bias after an insertion at distance `delta`, with `points` code points
written so far. -/
def adapt (delta points : Nat) (first : Bool) : Nat :=
  let scaled := if first then delta / 700 else delta / 2
  let (d, k) := shrink (scaled + scaled / points) 0
  k + 36 * d / (d + 38)

/-- The digits of a distance `q` from weight place `k` on. -/
def encodeDigits (bias k q : Nat) : List Char :=
  let t := threshold k bias
  if q < t then [digitChar q]
  else digitChar (t + (q - t) % (36 - t)) :: encodeDigits bias (k + 36) ((q - t) / (36 - t))
termination_by q
decreasing_by
  have := one_le_threshold k bias
  have := threshold_le k bias
  calc (q - threshold k bias) / (36 - threshold k bias)
      ≤ q - threshold k bias := Nat.div_le_self _ _
    _ < q := by omega

/-- Read a distance from weight place `k` on, with weight `w`, adding it to
`i`: the sum and the rest of the input. -/
def decodeDigits (bias : Nat) : List Char → Nat → Nat → Nat → Option (Nat × List Char)
  | [], _, _, _ => none
  | c :: rest, k, w, i =>
    match digitValue? c with
    | none => none
    | some d =>
      let sum := i + d * w
      if limit ≤ d * w ∨ limit ≤ sum then none
      else
        let t := threshold k bias
        if d < t then some (sum, rest)
        else if limit ≤ w * (36 - t) then none
        else decodeDigits bias rest (k + 36) (w * (36 - t)) sum

/-- Reading a distance uses up input. -/
theorem decodeDigits_shorter : ∀ (bias : Nat) (l : List Char) (k w i : Nat) (r : Nat × List Char),
    decodeDigits bias l k w i = some r → r.2.length < l.length
  | _, [], _, _, _, _, h => by simp [decodeDigits] at h
  | bias, c :: rest, k, w, i, r, h => by
    rw [decodeDigits] at h
    split at h
    · simp at h
    · dsimp only at h
      split at h
      · simp at h
      · split at h
        · rw [← Option.some.inj h]; simp
        · split at h
          · simp at h
          · have := decodeDigits_shorter bias rest (k + 36) _ _ r h
            simp; omega

/-- Insert the code points that the rest of the input gives into `out`, the
next one at least `n` and placed at `i` or later. -/
def decodeFrom (bias n i : Nat) (out : List Char) : List Char → Option (List Char)
  | [] => some out
  | c :: rest =>
    match _h : decodeDigits bias (c :: rest) 36 1 i with
    | none => none
    | some (sum, remaining) =>
      let points := out.length + 1
      let code := n + sum / points
      let place := sum % points
      if limit ≤ code ∨ (0xD800 ≤ code ∧ code ≤ 0xDFFF) ∨ 0x110000 ≤ code then none
      else
        decodeFrom (adapt (sum - i) points (i = 0)) code (place + 1)
          (out.take place ++ Char.ofNat code :: out.drop place) remaining
termination_by l => l.length
decreasing_by
  have := decodeDigits_shorter bias (c :: rest) 36 1 i (sum, remaining) _h
  simpa using this

/-- The ASCII part before the last hyphen and the digits after it. A hyphen
that stands first separates nothing: then all of the input is digits. -/
def splitAtHyphen (input : List Char) : List Char × List Char :=
  match input.reverse.span (· ≠ '-') with
  | (_, []) => ([], input)
  | (after, _ :: before) => if before.isEmpty then ([], input) else (before.reverse, after.reverse)

/-- The label that a Punycode text stands for, if it decodes. -/
def decode? (input : List Char) : Option (List Char) :=
  let (basic, digits) := splitAtHyphen input
  if decodeLimit < input.length ∨ basic.any (0x80 ≤ ·.toNat) then none
  else decodeFrom 72 0x80 0 basic digits

/-- Where encoding stands: the digits written, the distance so far, the bias,
and how many code points are written. -/
structure Encoding where
  out : List Char
  delta : Nat
  bias : Nat
  done : Nat

/-- Pass one character of the label while inserting the code point `m`; `b`
counts the ASCII characters. -/
def Encoding.pass (b m : Nat) (st : Encoding) (c : Char) : Encoding :=
  if c.toNat < m then { st with delta := st.delta + 1 }
  else if c.toNat = m then
    { out := st.out ++ encodeDigits st.bias 36 st.delta, delta := 0,
      bias := adapt st.delta (st.done + 1) (st.done = b), done := st.done + 1 }
  else st

/-- Insert the code points `todo`, in increasing order, after `n`. -/
def encodeFrom (label : List Char) (b : Nat) : List Nat → Nat → Encoding → Encoding
  | [], _, st => st
  | m :: rest, n, st =>
    let st := label.foldl (Encoding.pass b m) { st with delta := st.delta + (m - n) * (st.done + 1) }
    encodeFrom label b rest (m + 1) { st with delta := st.delta + 1 }

/-- The Punycode text of a label, for a label of at most 1000 code points. -/
def encode? (label : List Char) : Option (List Char) :=
  let basic := label.filter (·.toNat < 0x80)
  let others := ((label.filter (0x80 ≤ ·.toNat)).map Char.toNat).mergeSort.eraseDups
  if encodeLimit < label.length then none
  else some (basic ++ (if basic.isEmpty then [] else ['-']) ++
    (encodeFrom label basic.length others 0x80 ⟨[], 0, 72, basic.length⟩).out)

example : encode? "bücher".toList = some "bcher-kva".toList := by decide +kernel
example : decode? "bcher-kva".toList = some "bücher".toList := by decide +kernel

end SyslogRelay.Text.Punycode
