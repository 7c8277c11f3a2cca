import Mathlib.Data.Nat.Digits.Defs
import SyslogRelay.Proofs.EscapeGrammar
import SyslogRelay.Proofs.RecordFields

namespace SyslogRelay

open SyslogRelay.Text

namespace Text

theorem utf8Size_eq_one_iff_toNat_lt {c : Char} : c.utf8Size = 1 ↔ c.toNat < 128 := by
  rw [Char.utf8Size_eq_one_iff, UInt32.le_iff_toNat_le]
  exact Nat.lt_succ_iff.symm

theorem length_le_byteSize (cs : List Char) : cs.length ≤ byteSize cs := by
  induction cs with
  | nil => exact Nat.le_refl 0
  | cons c cs ih =>
    have := Char.utf8Size_pos c
    rw [byteSize_cons, List.length_cons]
    omega

/-- Characters take as many bytes as there are of them exactly when each takes one. -/
theorem byteSize_eq_length_iff {cs : List Char} : byteSize cs = cs.length ↔ ∀ c ∈ cs, c.utf8Size = 1 := by
  induction cs with
  | nil => simp [byteSize]
  | cons c cs ih =>
    have := Char.utf8Size_pos c
    have := length_le_byteSize cs
    rw [byteSize_cons, List.length_cons, List.forall_mem_cons, ← ih]
    omega

/-- The cleaned line is never longer than the raw line. -/
theorem utf8ByteSize_cleanLine_le (raw : String) : (cleanLine raw).utf8ByteSize ≤ raw.utf8ByteSize := by
  rw [utf8ByteSize_eq_byteSize, utf8ByteSize_eq_byteSize, cleanLine, String.toList_ofList]
  calc byteSize (dropLineEnds (stripAnsi raw).toList) ≤ byteSize (stripAnsi raw).toList :=
        byteSize_le_of_isPrefix (dropLineEnds_isPrefix _)
    _ ≤ byteSize raw.toList := byteSize_le_of_sublist (stripAnsi_sublist raw)

end Text

/-- Computed in a byte, a priority comes out right: facility times eight plus
severity is below 192, so neither step wraps. -/
theorem Facility.toNat_priority_byte (f : Facility) (s : Severity) :
    (f.code.toUInt8 * 8 + s.code.toUInt8).toNat = f.priority s := by
  have bound := f.priority_lt s
  unfold Facility.priority at bound ⊢
  simp only [UInt8.toNat_add, UInt8.toNat_mul, Nat.toUInt8_eq, UInt8.toNat_ofNat', UInt8.toNat_ofNat]
  omega

namespace Record

theorem length_toString_priority (f : Facility) (s : Severity) :
    1 ≤ (toString (f.priority s)).length ∧ (toString (f.priority s)).length ≤ 3 := by
  have digits : (toString (f.priority s)).toList = Nat.toDigits 10 (f.priority s) := by
    simp [Nat.toString_eq_repr, Nat.toList_repr]
  refine ⟨?_, Nat.repr_length _ 3 (by decide) (Nat.lt_trans (f.priority_lt s) (by decide))⟩
  rw [← String.length_toList, digits]
  exact List.length_pos_iff.mpr Nat.toDigits_ne_nil

theorem utf8ByteSize_toString (n : Nat) : (toString n).utf8ByteSize = (toString n).length := by
  rw [utf8ByteSize_eq_byteSize, ← String.length_toList]
  refine byteSize_eq_length_iff.mpr fun c hc => utf8Size_eq_one_iff_toNat_lt.mpr ?_
  have digit := (isDecimal_toString n).1 c hc
  simp only [Char.isDigit, Bool.and_eq_true, decide_eq_true_eq] at digit
  have nine : c.val.toNat ≤ 57 := UInt32.le_iff_toNat_le.mp digit.2
  exact Nat.lt_of_le_of_lt nine (by decide)

/-- The task field writes one character for each byte of the task. -/
theorem utf8ByteSize_taskField (task : Option String) : (taskField task).utf8ByteSize = taskLen task := by
  cases task with
  | none => rfl
  | some t =>
    by_cases named : t.isEmpty
    · simp [taskField, taskLen, named]
    · have ascii : ∀ c ∈ (taskField (some t)).toList, c.utf8Size = 1 := by
        intro c hc
        have := (isFieldText_taskField (some t)).2 c hc
        simp only [isHeaderChar, Bool.and_eq_true, decide_eq_true_eq] at this
        exact utf8Size_eq_one_iff_toNat_lt.mpr (by omega)
      rw [utf8ByteSize_eq_byteSize, byteSize_eq_length_iff.mpr ascii]
      simp [taskField, taskLen, named, length_utf8Bytes]

/-- A record is `<`, its priority, `>`, the header, the task field, the two nil
fields and the cleaned line, in bytes. -/
theorem utf8ByteSize_encode (t : Template) (raw : String) (task : Option String) :
    (t.encode raw task).utf8ByteSize = 7 + (toString (t.facility.priority (severityOfRaw raw))).length +
      t.header.utf8ByteSize + taskLen task + (cleanLine raw).utf8ByteSize := by
  have message : Template.message raw = cleanLine raw := rfl
  have opening : ("<" : String).utf8ByteSize = 1 := rfl
  have closing : (">" : String).utf8ByteSize = 1 := rfl
  have nil_fields : (" - - " : String).utf8ByteSize = 5 := rfl
  simp only [Template.encode, message, String.utf8ByteSize_append, utf8ByteSize_taskField, utf8ByteSize_toString,
    opening, closing, nil_fields]
  omega

/-- **One reservation holds the whole record**, with at least six bytes to spare,
and its priority is computed in a byte without wrapping. -/
theorem encode_fits_reservation (t : Template) (raw : String) (task : Option String) :
    let p := t.facility.priority (severityOfRaw raw)
    (t.encode raw task).utf8ByteSize =
        7 + (toString p).length + t.header.utf8ByteSize + taskLen task + (cleanLine raw).utf8ByteSize ∧
      1 ≤ (toString p).length ∧ (toString p).length ≤ 3 ∧
      (t.encode raw task).utf8ByteSize + 6 ≤ t.reservation raw task ∧
      ∀ s : Severity, (t.facility.code.toUInt8 * 8 + s.code.toUInt8).toNat = t.facility.priority s := by
  have digits := length_toString_priority t.facility (severityOfRaw raw)
  have shorter := utf8ByteSize_cleanLine_le raw
  refine ⟨utf8ByteSize_encode t raw task, digits.1, digits.2, ?_, Facility.toNat_priority_byte t.facility⟩
  rw [utf8ByteSize_encode, Template.reservation, recordOverhead]
  omega

end Record

end SyslogRelay
