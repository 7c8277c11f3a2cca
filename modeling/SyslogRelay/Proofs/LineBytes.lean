import Mathlib.Data.List.Induction
import SyslogRelay.Text.ByteLine
import SyslogRelay.Proofs.LineBounds
import SyslogRelay.Proofs.RecordLength

/-!
The byte buffer of a bounded line against the line of characters it keeps
(`ByteLine.Encodes`).
-/

namespace SyslogRelay.Text

theorem isContinuation_iff (b : UInt8) : isContinuation b = true ↔ 128 ≤ b.toNat ∧ b.toNat < 192 := by
  have bytes : ∀ n : Fin 256, isContinuation (UInt8.ofNat n) = true ↔ 128 ≤ n.val ∧ n.val < 192 := by
    decide +kernel
  simpa using bytes ⟨b.toNat, b.toNat_lt⟩

/-- Every byte of a character's encoding but the first is a continuation byte. -/
theorem isContinuation_utf8EncodeChar {c : Char} {i : Nat} {b : UInt8}
    (h : (String.utf8EncodeChar c)[i]? = some b) : isContinuation b = true ↔ i ≠ 0 := by
  rw [isContinuation_iff]
  simp only [String.utf8EncodeChar, Char.toNat_val] at h
  split_ifs at h <;> rcases i with _ | _ | _ | _ | i <;> simp at h <;> subst h <;>
    simp [UInt8.toNat_ofNat'] <;> omega

theorem exists_getElem?_utf8EncodeChar (c : Char) {i : Nat} (h : i < c.utf8Size) :
    ∃ b, (String.utf8EncodeChar c)[i]? = some b :=
  ⟨_, List.getElem?_eq_getElem (by rw [String.length_utf8EncodeChar]; exact h)⟩

/-- The last byte of a character's encoding is a line feed or a carriage return
only for those two characters. -/
theorem lineEnd_lastByte_iff {c : Char} {b : UInt8}
    (h : (String.utf8EncodeChar c)[c.utf8Size - 1]? = some b) :
    (b = 10 ∨ b = 13) ↔ (c = '\n' ∨ c = '\r') := by
  by_cases one : c.utf8Size = 1
  · rw [one, String.utf8EncodeChar_eq_singleton one] at h
    obtain rfl : c.toUInt8 = b := by simpa using h
    have small := utf8Size_eq_one_iff_toNat_lt.mp one
    have code : c.toUInt8.toNat = c.toNat := by
      rw [Char.toUInt8, UInt32.toNat_toUInt8, Char.toNat_val]
      omega
    rw [← UInt8.toNat_inj, ← UInt8.toNat_inj, ← Char.toNat_inj, ← Char.toNat_inj, code]
    exact Iff.rfl
  · have := c.utf8Size_pos
    have cont := (isContinuation_iff b).mp ((isContinuation_utf8EncodeChar h).mpr (by omega))
    have single : ∀ d : Char, d = '\n' ∨ d = '\r' → d.utf8Size = 1 := by
      rintro d (rfl | rfl) <;> rfl
    constructor
    · rintro (rfl | rfl) <;> simp at cont
    · intro hc
      exact absurd (single c hc) one

theorem length_flatMap_utf8EncodeChar (cs : List Char) :
    (cs.flatMap String.utf8EncodeChar).length = byteSize cs := by
  induction cs with
  | nil => rfl
  | cons c cs ih =>
    rw [List.flatMap_cons, List.length_append, String.length_utf8EncodeChar, ih, byteSize_cons]

theorem take_flatMap_of_isPrefix {p cs : List Char} (h : p <+: cs) :
    (cs.flatMap String.utf8EncodeChar).take (byteSize p) = p.flatMap String.utf8EncodeChar := by
  obtain ⟨q, rfl⟩ := h
  rw [List.flatMap_append, List.take_left' (length_flatMap_utf8EncodeChar p)]

/-- The byte at `byteSize cs + j` of the encoding of `cs ++ d :: ds` is byte `j` of `d`. -/
theorem getElem?_flatMap_after (cs : List Char) (d : Char) (ds : List Char) (j : Nat) :
    ((cs ++ d :: ds).flatMap String.utf8EncodeChar)[byteSize cs + j]? =
      (String.utf8EncodeChar d ++ ds.flatMap String.utf8EncodeChar)[j]? := by
  rw [List.flatMap_append, List.getElem?_append_right (by rw [length_flatMap_utf8EncodeChar]; omega),
    length_flatMap_utf8EncodeChar, Nat.add_sub_cancel_left, List.flatMap_cons]

theorem byteSize_lt_iff_length_lt {p cs : List Char} (h : p <+: cs) :
    byteSize p < byteSize cs ↔ p.length < cs.length := by
  obtain ⟨q, rfl⟩ := h
  rw [byteSize_append, List.length_append]
  cases q with
  | nil => simp [byteSize]
  | cons c q =>
    have := c.utf8Size_pos
    simp only [byteSize_cons, List.length_cons]
    omega

/-- UTF-8 bytes of characters always read back as those characters. -/
theorem fromUTF8?_flatMap (cs : List Char) :
    String.fromUTF8? (cs.flatMap String.utf8EncodeChar).toByteArray = some (String.ofList cs) := by
  have bytes : (cs.flatMap String.utf8EncodeChar).toByteArray = (String.ofList cs).toByteArray := by
    rw [String.toByteArray_ofList]
    rfl
  rw [bytes]
  unfold String.fromUTF8?
  rw [dif_pos (String.ofList cs).isValidUTF8]
  rfl

theorem byteSize_concat (cs : List Char) (c : Char) : byteSize (cs ++ [c]) = byteSize cs + c.utf8Size := by
  rw [byteSize_append, byteSize_cons]
  rfl

theorem dropLineEnds_concat (cs : List Char) (c : Char) :
    dropLineEnds (cs ++ [c]) = if c = '\n' ∨ c = '\r' then dropLineEnds cs else cs ++ [c] := by
  unfold dropLineEnds
  rw [List.reverse_append, List.reverse_singleton, List.singleton_append, List.dropWhile_cons]
  by_cases hc : c = '\n' ∨ c = '\r' <;> simp [hc]

/-! ### Cut points -/

/-- In the encoding of `cs`, a character starts at `t` exactly when `t` is the
size of a leading run of `cs`. -/
theorem startsChar_flatMap_iff (cs : List Char) (t : Nat) :
    startsChar (cs.flatMap String.utf8EncodeChar) t = true ↔ ∃ k, byteSize (cs.take k) = t := by
  induction cs generalizing t with
  | nil =>
    simp only [List.flatMap_nil, List.take_nil, startsChar, List.getElem?_nil, List.length_nil, beq_iff_eq]
    exact ⟨fun h => ⟨0, h.symm⟩, fun ⟨_, hk⟩ => hk.symm⟩
  | cons c cs ih =>
    have hc := c.utf8Size_pos
    have hE := String.length_utf8EncodeChar c
    rw [List.flatMap_cons]
    by_cases ht : t < c.utf8Size
    · obtain ⟨b, hb⟩ := exists_getElem?_utf8EncodeChar c ht
      have first : startsChar (String.utf8EncodeChar c ++ cs.flatMap String.utf8EncodeChar) t =
          decide (t = 0) := by
        rw [startsChar, List.getElem?_append_left (by omega), hb, Bool.eq_iff_iff, Bool.not_eq_true',
          decide_eq_true_iff, ← Bool.not_eq_true, isContinuation_utf8EncodeChar hb, not_not]
      rw [first, decide_eq_true_iff]
      constructor
      · rintro rfl
        exact ⟨0, rfl⟩
      · rintro ⟨_ | k, hk⟩
        · exact hk.symm
        · rw [List.take_succ_cons, byteSize_cons] at hk
          omega
    · have rest : startsChar (String.utf8EncodeChar c ++ cs.flatMap String.utf8EncodeChar) t =
          startsChar (cs.flatMap String.utf8EncodeChar) (t - c.utf8Size) := by
        rw [startsChar, startsChar, List.getElem?_append_right (by omega), List.length_append, hE]
        cases (cs.flatMap String.utf8EncodeChar)[t - c.utf8Size]? with
        | some b => rfl
        | none =>
          rw [Bool.eq_iff_iff, beq_iff_eq, beq_iff_eq]
          omega
      rw [rest, ih]
      constructor
      · rintro ⟨k, hk⟩
        exact ⟨k + 1, by rw [List.take_succ_cons, byteSize_cons]; omega⟩
      · rintro ⟨_ | k, hk⟩
        · simp [byteSize] at hk
          omega
        · rw [List.take_succ_cons, byteSize_cons] at hk
          exact ⟨k, by omega⟩

theorem isCharBoundary_flatMap_iff (cs : List Char) (t : Nat) :
    isCharBoundary (cs.flatMap String.utf8EncodeChar) t = true ↔ ∃ k, byteSize (cs.take k) = t := by
  rw [isCharBoundary, Bool.or_eq_true, startsChar_flatMap_iff, beq_iff_eq]
  constructor
  · rintro (rfl | h)
    · exact ⟨0, rfl⟩
    · exact h
  · exact Or.inr

theorem isCharBoundary_le_length {bytes : List UInt8} {u : Nat} (h : isCharBoundary bytes u = true) :
    u ≤ bytes.length := by
  rw [isCharBoundary, Bool.or_eq_true, beq_iff_eq] at h
  rcases h with rfl | h
  · exact Nat.zero_le _
  · unfold startsChar at h
    split at h
    · next b hb => exact (List.getElem?_eq_some_iff.mp hb).1.le
    · exact (beq_iff_eq.mp h).le

/-- Walking down from `m` stops at the largest cut point at or below `m`. -/
theorem boundaryBelow?_greatest (bytes : List UInt8) (m : Nat) :
    ∃ t, ByteLine.boundaryBelow? bytes m = some t ∧ t ≤ m ∧ isCharBoundary bytes t = true ∧
      ∀ u, isCharBoundary bytes u = true → u ≤ m → u ≤ t := by
  induction m with
  | zero => exact ⟨0, rfl, Nat.le_refl 0, rfl, fun _ _ hu => hu⟩
  | succ m ih =>
    by_cases hm : isCharBoundary bytes (m + 1) = true
    · exact ⟨m + 1, by simp [ByteLine.boundaryBelow?, hm], Nat.le_refl _, hm, fun _ _ hu => hu⟩
    · obtain ⟨t, ht, hle, hb, hmax⟩ := ih
      refine ⟨t, by simp [ByteLine.boundaryBelow?, hm, ht], by omega, hb, fun u hu hum => ?_⟩
      have : u ≠ m + 1 := by
        rintro rfl
        exact hm hu
      exact hmax u hu (by omega)

/-- The longest run of `cs` that fits `r` bytes ends at the largest cut point of
its encoding within `r`. -/
theorem byteSize_fitting_greatest (r : Nat) (cs : List Char) :
    isCharBoundary (cs.flatMap String.utf8EncodeChar) (byteSize (fitting r cs)) = true ∧
      byteSize (fitting r cs) ≤ r ∧
      ∀ u, isCharBoundary (cs.flatMap String.utf8EncodeChar) u = true → u ≤ r →
        u ≤ byteSize (fitting r cs) := by
  obtain ⟨pre, fits, longest⟩ := fitting_longest r cs
  refine ⟨(isCharBoundary_flatMap_iff cs _).mpr
    ⟨_, congrArg byteSize (List.prefix_iff_eq_take.mp pre).symm⟩, fits, ?_⟩
  intro u hu hur
  obtain ⟨k, rfl⟩ := (isCharBoundary_flatMap_iff cs u).mp hu
  have shorter := longest (cs.take k) (List.take_prefix k cs) hur
  exact byteSize_le_of_isPrefix (List.prefix_of_prefix_length_le (List.take_prefix k cs) pre shorter)

/-! ### Walks over the buffer -/

section Walks

variable {buf : List UInt8}

/-- Walking down over line ends in the bytes of `cs` stops at the size of `cs`
without its trailing line ends. -/
theorem trimmedLen?_of_encoded {cs : List Char}
    (h : buf.take (byteSize cs) = cs.flatMap String.utf8EncodeChar) (hle : byteSize cs ≤ buf.length) :
    ByteLine.trimmedLen? buf (byteSize cs) = some (byteSize (dropLineEnds cs)) := by
  induction cs using List.reverseRecOn with
  | nil => rfl
  | append_singleton cs c ih =>
    have hc := c.utf8Size_pos
    have size := byteSize_concat cs c
    have front : buf.take (byteSize cs) = cs.flatMap String.utf8EncodeChar := by
      rw [← take_flatMap_of_isPrefix (List.prefix_append cs [c]), ← h, List.take_take,
        Nat.min_eq_left (by omega)]
    obtain ⟨b, hb⟩ := exists_getElem?_utf8EncodeChar c (i := c.utf8Size - 1) (by omega)
    have last : buf[byteSize cs + (c.utf8Size - 1)]? = some b := by
      rw [← List.getElem?_take_of_lt (j := byteSize (cs ++ [c])) (by omega), h,
        getElem?_flatMap_after, List.getElem?_append_left (by rw [String.length_utf8EncodeChar]; omega), hb]
    rw [dropLineEnds_concat, size, show byteSize cs + c.utf8Size = byteSize cs + (c.utf8Size - 1) + 1 by omega,
      ByteLine.trimmedLen?, last]
    by_cases hl : c = '\n' ∨ c = '\r'
    · have one : c.utf8Size = 1 := by rcases hl with rfl | rfl <;> rfl
      simp only [if_pos ((lineEnd_lastByte_iff hb).mpr hl), if_pos hl, one, Nat.sub_self, Nat.add_zero]
      exact ih front (by omega)
    · simp only [if_neg (mt (lineEnd_lastByte_iff hb).mp hl), if_neg hl, size, Option.some.injEq]
      omega

/-- Walking down from any byte of the last character of `cs ++ [c]` over
continuation bytes stops where that character starts. -/
theorem charStart?_of_encoded {cs : List Char} {c : Char}
    (h : buf.take (byteSize (cs ++ [c])) = (cs ++ [c]).flatMap String.utf8EncodeChar) :
    ∀ j < c.utf8Size, ByteLine.charStart? buf (byteSize cs + j) = some (byteSize cs) := by
  have size := byteSize_concat cs c
  have byte : ∀ j < c.utf8Size, buf[byteSize cs + j]? = (String.utf8EncodeChar c)[j]? := by
    intro j hj
    rw [← List.getElem?_take_of_lt (j := byteSize (cs ++ [c])) (by omega), h, getElem?_flatMap_after,
      List.getElem?_append_left (by rw [String.length_utf8EncodeChar]; omega)]
  intro j hj
  induction j with
  | zero =>
    obtain ⟨b, hb⟩ := exists_getElem?_utf8EncodeChar c hj
    have first := byte 0 hj
    rw [hb] at first
    have lead : isContinuation b = false := by
      simpa using (isContinuation_utf8EncodeChar hb).not
    cases hs : byteSize cs with
    | zero => rfl
    | succ e =>
      rw [hs] at first
      simp [ByteLine.charStart?, first, lead]
  | succ j ih =>
    obtain ⟨b, hb⟩ := exists_getElem?_utf8EncodeChar c hj
    have cont := (isContinuation_utf8EncodeChar hb).mpr (Nat.succ_ne_zero j)
    have next := byte (j + 1) hj
    rw [← Nat.add_assoc] at next
    rw [← Nat.add_assoc, ByteLine.charStart?, next, hb]
    simp only [cont, if_true]
    exact ih (by omega)

end Walks

namespace ByteLine

/-- A write with `len` inside the buffer goes through: it copies the bytes of `s`
up to the largest cut point within the room left and marks the line if that is
not all of them. -/
theorem write?_spec (l : ByteLine) (s : String) (h : l.len ≤ l.capacity) :
    ∃ t l', l.write? s = some l' ∧ t ≤ l.capacity - l.len ∧ isCharBoundary (utf8Bytes s) t = true ∧
      (∀ u, isCharBoundary (utf8Bytes s) u = true → u ≤ l.capacity - l.len → u ≤ t) ∧
      l'.buf.length = l.buf.length ∧ l'.len = l.len + t ∧
      l'.buf.take l'.len = l.buf.take l.len ++ (utf8Bytes s).take t ∧
      l'.truncated = (l.truncated || decide (t < (utf8Bytes s).length)) := by
  obtain ⟨t, walk, hle, hb, hmax⟩ :=
    boundaryBelow?_greatest (utf8Bytes s) (min (utf8Bytes s).length (l.capacity - l.len))
  have within : t ≤ (utf8Bytes s).length := by omega
  have fits : l.len + t ≤ l.buf.length := by
    simp only [capacity] at hle h
    omega
  refine ⟨t, ⟨l.buf.take l.len ++ (utf8Bytes s).take t ++ l.buf.drop (l.len + t), l.len + t,
      l.truncated || decide (t < (utf8Bytes s).length)⟩, ?_, by omega, hb,
    fun u hu hur => hmax u hu (Nat.le_min.mpr ⟨isCharBoundary_le_length hu, hur⟩), ?_, rfl, ?_, rfl⟩
  · simp [write?, checkedSub, h, walk, within, copyAt?, fits]
  · simp only [List.length_append, List.length_take, List.length_drop]
    omega
  · exact List.take_left' (by simp only [List.length_append, List.length_take]; omega)

/-- The buffer holds the line `b`: the same capacity and mark, and the bytes in
use are the UTF-8 encoding of its characters. -/
structure Encodes (l : ByteLine) (b : BoundedLine) : Prop where
  capacity : l.buf.length = b.capacity
  len_le : l.len ≤ l.buf.length
  used : l.buf.take l.len = b.chars.flatMap String.utf8EncodeChar
  truncated : l.truncated = b.truncated

theorem encodes_new (n : Nat) : (new n).Encodes (BoundedLine.empty n) :=
  ⟨List.length_replicate, Nat.zero_le _, rfl, rfl⟩

namespace Encodes

variable {l : ByteLine} {b : BoundedLine}

theorem len_eq (h : l.Encodes b) : l.len = b.size := by
  have := congrArg List.length h.used
  rwa [List.length_take_of_le h.len_le, length_flatMap_utf8EncodeChar] at this

theorem text_eq (h : l.Encodes b) :
    String.fromUTF8? (l.buf.take l.len).toByteArray = some b.text := by
  rw [h.used]
  exact fromUTF8?_flatMap b.chars

/-- Keeping a leading run of the characters is cutting the bytes in use at its size. -/
theorem cut (h : l.Encodes b) {p : List Char} (hp : p <+: b.chars) (m : Bool) :
    Encodes ⟨l.buf, byteSize p, m⟩ ⟨b.capacity, p, m⟩ := by
  have le : byteSize p ≤ l.len := h.len_eq ▸ byteSize_le_of_isPrefix hp
  refine ⟨h.capacity, by have := h.len_le; simp only; omega, ?_, rfl⟩
  rw [← take_flatMap_of_isPrefix hp, ← h.used, List.take_take, Nat.min_eq_left le]

/-- With room left, a line feed goes in right after the bytes in use. -/
theorem newline (h : l.Encodes b) (room : l.len < l.buf.length) :
    setAt? l.buf l.len 10 = some (l.buf.set l.len 10) ∧
      Encodes ⟨l.buf.set l.len 10, l.len + 1, l.truncated⟩ { b with chars := b.chars ++ ['\n'] } := by
  refine ⟨if_pos room, ⟨by simp [h.capacity], by simp only [List.length_set]; omega, ?_, h.truncated⟩⟩
  rw [List.take_add_one, List.getElem?_set_self room, List.take_set,
    List.set_eq_of_length_le (by simp), h.used, List.flatMap_append]
  rfl

theorem write (h : l.Encodes b) (s : String) : ∃ l', l.write? s = some l' ∧ l'.Encodes (b.write s) := by
  obtain ⟨t, l', hw, ht, hb, hmax, hlength, hlen, hused, htrunc⟩ := l.write?_spec s h.len_le
  have room : l.capacity - l.len = b.capacity - b.size := by
    rw [ByteLine.capacity, h.capacity, h.len_eq]
  rw [room] at ht hmax
  rw [Record.utf8Bytes_eq_flatMap] at hb hmax
  obtain ⟨fb, ffit, fmax⟩ := byteSize_fitting_greatest (b.capacity - b.size) s.toList
  -- the walk stops where the longest fitting run ends
  have stop : t = byteSize (fitting (b.capacity - b.size) s.toList) :=
    Nat.le_antisymm (fmax t hb ht) (hmax _ fb ffit)
  have kept := fitting_isPrefixOf (b.capacity - b.size) s.toList
  refine ⟨l', hw, ⟨hlength.trans h.capacity, ?_, ?_, ?_⟩⟩
  · have := h.len_eq
    have := h.capacity
    have := h.len_le
    omega
  · rw [hused, h.used, Record.utf8Bytes_eq_flatMap, stop, take_flatMap_of_isPrefix kept,
      ← List.flatMap_append]
    rfl
  · have shorter : t < (utf8Bytes s).length ↔ (fitting (b.capacity - b.size) s.toList).length < s.length := by
      rw [Record.utf8Bytes_eq_flatMap, length_flatMap_utf8EncodeChar, stop, byteSize_lt_iff_length_lt kept,
        String.length_toList]
    rw [htrunc]
    simp only [BoundedLine.write, h.truncated, decide_eq_decide.mpr shorter]

theorem trim (h : l.Encodes b) :
    l.trim? = some ⟨l.buf, byteSize (dropLineEnds b.chars), l.truncated⟩ ∧
      Encodes ⟨l.buf, byteSize (dropLineEnds b.chars), l.truncated⟩ b.trimLineEnds := by
  have len := h.len_eq
  simp only [BoundedLine.size] at len
  refine ⟨?_, h.truncated ▸ h.cut (dropLineEnds_isPrefix b.chars) b.truncated⟩
  rw [trim?, len, trimmedLen?_of_encoded (len ▸ h.used) (len ▸ h.len_le)]
  rfl

theorem capacity_ne_zero (h : l.Encodes b) (hcap : b.capacity ≠ 0) : l.capacity ≠ 0 := by
  rw [ByteLine.capacity, h.capacity]
  exact hcap

theorem full_iff (h : l.Encodes b) :
    byteSize (dropLineEnds b.chars) = l.buf.length ↔ b.FullOnceTrimmed := by
  rw [h.capacity]
  rfl

theorem terminate_of_full (h : l.Encodes b) (hcap : b.capacity ≠ 0) (hfull : b.FullOnceTrimmed) :
    ∃ l', l.terminate? = some l' ∧ l'.Encodes b.terminate := by
  obtain ⟨htrim, trimmed⟩ := h.trim
  have full := h.full_iff.mpr hfull
  obtain ⟨ds, c, hds⟩ : ∃ ds c, dropLineEnds b.chars = ds ++ [c] := by
    rcases List.eq_nil_or_concat (dropLineEnds b.chars) with hnil | ⟨ds, c, hds⟩
    · rw [hnil, h.capacity] at full
      exact absurd full.symm hcap
    · exact ⟨ds, c, by simpa using hds⟩
  have hc := c.utf8Size_pos
  have sized : byteSize ds + c.utf8Size = l.buf.length := by
    rw [← byteSize_concat, ← hds]
    exact full
  have start : charStart? l.buf (byteSize ds + (c.utf8Size - 1)) = some (byteSize ds) :=
    charStart?_of_encoded (c := c) (by rw [← hds]; exact trimmed.used) (c.utf8Size - 1) (by omega)
  have dropped := trimmed.cut (p := ds) (by simp [BoundedLine.trimLineEnds, hds]) true
  obtain ⟨hset, ended⟩ := dropped.newline (show byteSize ds < l.buf.length by omega)
  have hset : setAt? l.buf (byteSize ds) 10 = some (l.buf.set (byteSize ds) 10) := hset
  refine ⟨⟨l.buf.set (byteSize ds) 10, byteSize ds + 1, true⟩, ?_, ?_⟩
  · have last : l.buf.length - 1 = byteSize ds + (c.utf8Size - 1) := by omega
    have pos : 1 ≤ l.buf.length := by omega
    simp only [terminate?, if_neg (h.capacity_ne_zero hcap), htrim]
    simp [ByteLine.capacity, full, checkedSub, pos, last, start, hset]
  · rw [BoundedLine.terminate_full b hcap hfull, hds, List.dropLast_concat]
    exact ended

theorem terminate_of_room (h : l.Encodes b) (hcap : b.capacity ≠ 0) (hroom : ¬b.FullOnceTrimmed) :
    ∃ l', l.terminate? = some l' ∧ l'.Encodes b.terminate := by
  obtain ⟨htrim, trimmed⟩ := h.trim
  have short := mt h.full_iff.mp hroom
  have room : byteSize (dropLineEnds b.chars) < l.buf.length := by
    have : byteSize (dropLineEnds b.chars) ≤ l.buf.length := trimmed.len_le
    omega
  obtain ⟨hset, ended⟩ := trimmed.newline room
  have hset : setAt? l.buf (byteSize (dropLineEnds b.chars)) 10 =
      some (l.buf.set (byteSize (dropLineEnds b.chars)) 10) := hset
  refine ⟨⟨l.buf.set (byteSize (dropLineEnds b.chars)) 10, byteSize (dropLineEnds b.chars) + 1,
    l.truncated⟩, ?_, ?_⟩
  · simp only [terminate?, if_neg (h.capacity_ne_zero hcap), htrim]
    simp [ByteLine.capacity, short, hset]
  · rw [BoundedLine.terminate_room b hcap hroom]
    exact ended

theorem terminate (h : l.Encodes b) : ∃ l', l.terminate? = some l' ∧ l'.Encodes b.terminate := by
  by_cases hcap : b.capacity = 0
  · have empty : l.capacity = 0 := by rw [ByteLine.capacity, h.capacity, hcap]
    exact ⟨l, by simp [terminate?, empty], by simpa [BoundedLine.terminate, hcap] using h⟩
  by_cases hfull : b.FullOnceTrimmed
  · exact h.terminate_of_full hcap hfull
  · exact h.terminate_of_room hcap hfull

end Encodes

/-- One edit of the line, made on its buffer. -/
def edit? (l : ByteLine) : BoundedLine.Edit → Option ByteLine
  | .write s => l.write? s
  | .trimLineEnds => l.trim?
  | .terminate => l.terminate?

/-- Edits made in order on the buffer, stopping at the first that fails. -/
def replay? (l : ByteLine) (edits : List BoundedLine.Edit) : Option ByteLine :=
  edits.foldlM edit? l

theorem Encodes.edit {l : ByteLine} {b : BoundedLine} (h : l.Encodes b) (e : BoundedLine.Edit) :
    ∃ l', l.edit? e = some l' ∧ l'.Encodes (b.edit e) := by
  cases e with
  | write s => exact h.write s
  | trimLineEnds => exact ⟨_, h.trim.1, h.trim.2⟩
  | terminate => exact h.terminate

theorem Encodes.replay {l : ByteLine} {b : BoundedLine} (h : l.Encodes b) (edits : List BoundedLine.Edit) :
    ∃ l', l.replay? edits = some l' ∧ l'.Encodes (b.replay edits) := by
  induction edits generalizing l b with
  | nil => exact ⟨l, rfl, h⟩
  | cons e es ih =>
    obtain ⟨l₁, step, h₁⟩ := h.edit e
    obtain ⟨l₂, run, h₂⟩ := ih h₁
    exact ⟨l₂, by simp [replay?, step, ← run, replay?], h₂⟩

/-- From a new buffer of `n` bytes, over any edits, every step stays in bounds and
the bytes in use read as UTF-8; the next write appends up to the last cut point. -/
theorem replay_keeps_utf8 (n : Nat) (edits : List BoundedLine.Edit) :
    ∃ l, (new n).replay? edits = some l ∧ l.buf.length = n ∧ l.len ≤ n ∧
      String.fromUTF8? (l.buf.take l.len).toByteArray = some ((BoundedLine.empty n).replay edits).text ∧
      (∀ s, ∃ l' t, l.write? s = some l' ∧ t ≤ n - l.len ∧ isCharBoundary (utf8Bytes s) t = true ∧
        (∀ u, isCharBoundary (utf8Bytes s) u = true → u ≤ n - l.len → u ≤ t) ∧
        l'.buf.take l'.len = l.buf.take l.len ++ (utf8Bytes s).take t ∧
        (l'.truncated = true ↔ l.truncated = true ∨ t < (utf8Bytes s).length)) ∧
      ∀ e, ∃ l', l.edit? e = some l' ∧ (l.truncated = true → l'.truncated = true) := by
  obtain ⟨l, run, h⟩ := (encodes_new n).replay edits
  have hcap : l.buf.length = n := by
    rw [h.capacity, BoundedLine.replay_capacity]
    rfl
  refine ⟨l, run, hcap, hcap ▸ h.len_le, h.text_eq, fun s => ?_, fun e => ?_⟩
  · obtain ⟨t, l', hw, ht, hb, hmax, -, -, hused, htrunc⟩ := l.write?_spec s h.len_le
    simp only [capacity, hcap] at ht hmax
    exact ⟨l', t, hw, ht, hb, hmax, hused, by simp [htrunc]⟩
  · obtain ⟨l', step, h'⟩ := h.edit e
    refine ⟨l', step, fun marked => ?_⟩
    rw [h'.truncated]
    exact BoundedLine.truncated_edit _ e (h.truncated ▸ marked)

end ByteLine

end SyslogRelay.Text
