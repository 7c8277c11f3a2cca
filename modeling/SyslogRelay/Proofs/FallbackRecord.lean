import SyslogRelay.Proofs.SeverityProbe
import SyslogRelay.Proofs.RecordLength

/-!
The bounded fallback record against the record.
-/

namespace SyslogRelay

open SyslogRelay.Text

namespace Text

theorem length_toDigits_of_lt_ten {n : Nat} (h : n < 10) : (Nat.toDigits 10 n).length = 1 := by
  rw [Nat.toDigits_of_lt_base h, List.length_singleton]

theorem length_toDigits_of_lt_hundred {n : Nat} (h₁ : 10 ≤ n) (h₂ : n < 100) : (Nat.toDigits 10 n).length = 2 := by
  rw [Nat.toDigits_of_base_le (by decide) h₁, List.length_append, length_toDigits_of_lt_ten (by omega),
    List.length_singleton]

theorem length_toDigits_of_lt_thousand {n : Nat} (h₁ : 100 ≤ n) (h₂ : n < 1000) :
    (Nat.toDigits 10 n).length = 3 := by
  rw [Nat.toDigits_of_base_le (by decide) (by omega), List.length_append,
    length_toDigits_of_lt_hundred (by omega) (by omega), List.length_singleton]

theorem length_toString (n : Nat) : (toString n).length = (Nat.toDigits 10 n).length := by
  rw [← String.length_toList]
  simp [Nat.toString_eq_repr, Nat.toList_repr]

end Text

/-- Facility codes come in three runs: 0, 1 to 9, and 16 to 23. -/
theorem Facility.code_runs (f : Facility) :
    f.code = 0 ∨ (1 ≤ f.code ∧ f.code ≤ 9) ∨ (16 ≤ f.code ∧ f.code ≤ 23) := by
  cases f <;> decide

/-- Priorities of one facility with a level between error and debug have the
same number of digits. -/
theorem Facility.length_toString_priority {f : Facility} {s s' : Severity} (hs : 3 ≤ s.code) (hs' : 3 ≤ s'.code) :
    (toString (f.priority s)).length = (toString (f.priority s')).length := by
  have := s.code_lt
  have := s'.code_lt
  rw [length_toString, length_toString]
  unfold Facility.priority
  rcases f.code_runs with run | run | run
  · rw [length_toDigits_of_lt_ten (by omega), length_toDigits_of_lt_ten (by omega)]
  · rw [length_toDigits_of_lt_hundred (by omega) (by omega), length_toDigits_of_lt_hundred (by omega) (by omega)]
  · rw [length_toDigits_of_lt_thousand (by omega) (by omega),
      length_toDigits_of_lt_thousand (by omega) (by omega)]

theorem Facility.priority_inj {f : Facility} {s s' : Severity} (h : f.priority s = f.priority s') : s = s' := by
  have same : s.code = s'.code := by
    rw [← f.priority_mod s, h, f.priority_mod s']
  have := Severity.ofCode?_code s
  rw [same, Severity.ofCode?_code] at this
  exact (Option.some.inj this).symm

namespace Text.BoundedLine

/-- Pieces that fit are written whole, and the line is not marked cut. -/
theorem writeAll_of_fits (b : BoundedLine) (gs : List String)
    (h : b.size + byteSize (gs.flatMap String.toList) ≤ b.capacity) :
    b.writeAll gs = { b with chars := b.chars ++ gs.flatMap String.toList } := by
  induction gs generalizing b with
  | nil => simp [writeAll]
  | cons g gs ih =>
    rw [List.flatMap_cons, byteSize_append] at h
    have whole : fitting (b.capacity - b.size) g.toList = g.toList := fitting_of_byteSize_le (by omega)
    have written : b.write g = { b with chars := b.chars ++ g.toList } := by
      simp [write, whole, String.length_toList]
    rw [writeAll_cons, written, ih]
    · simp [List.flatMap_cons]
    · simp only [size, byteSize_append] at h ⊢
      omega

/-- What a line keeps of its pieces is a part of each, in order. -/
theorem writeAll_sublist (b : BoundedLine) (gs : List String) :
    (b.writeAll gs).chars.Sublist (b.chars ++ gs.flatMap String.toList) := by
  induction gs generalizing b with
  | nil => simp [writeAll]
  | cons g gs ih =>
    rw [writeAll_cons, List.flatMap_cons, ← List.append_assoc]
    refine (ih (b.write g)).trans ?_
    rw [chars_write]
    exact (((fitting_isPrefixOf _ _).sublist).append_left b.chars).append_right _

end Text.BoundedLine

namespace Record

/-! ### Task fields -/

/-- ASCII characters are encoded as their codes, one byte each. -/
theorem flatMap_utf8EncodeChar_of_ascii {cs : List Char} (h : ∀ c ∈ cs, c.toNat < 128) :
    cs.flatMap String.utf8EncodeChar = cs.map Char.toUInt8 := by
  induction cs with
  | nil => rfl
  | cons c cs ih =>
    have one : c.utf8Size = 1 := utf8Size_eq_one_iff_toNat_lt.mpr (h c List.mem_cons_self)
    rw [List.flatMap_cons, String.utf8EncodeChar_eq_singleton one, Char.toUInt8_val, List.map_cons,
      ih fun d hd => h d (List.mem_cons_of_mem c hd)]
    rfl

/-- An ASCII task is written the same per byte and per character. -/
theorem taskField_of_ascii {t : String} (h : ∀ c ∈ t.toList, c.toNat < 128) :
    taskField (some t) = headerValue (some t) := by
  by_cases named : t.isEmpty
  · simp [taskField, headerValue, named]
  · apply String.toList_inj.mp
    simp only [taskField, headerValue, named, Bool.false_eq_true, ↓reduceIte, String.toList_ofList,
      String.toList_map, utf8Bytes_eq_flatMap, flatMap_utf8EncodeChar_of_ascii h, List.map_map]
    refine List.map_congr_left fun c hc => ?_
    have code : (Char.toUInt8 c).toNat = c.toNat := by
      rw [← Char.toUInt8_val, UInt32.toNat_toUInt8]
      exact Nat.mod_eq_of_lt (Nat.lt_trans (h c hc) (by decide))
    simp only [Function.comp_apply, code, headerChar, isHeaderChar, Char.ofNat_toNat, Bool.and_eq_true,
      decide_eq_true_eq]

/-- A header field writes one character for each character of the task, the
task field one for each byte: never more, and as many exactly when the task is
ASCII. -/
theorem utf8ByteSize_headerValue (task : Option String) :
    (headerValue task).utf8ByteSize ≤ taskLen task ∧
      ((headerValue task).utf8ByteSize = taskLen task ↔ ∀ t ∈ task, ∀ c ∈ t.toList, c.toNat < 128) := by
  cases task with
  | none => simp [headerValue, taskLen]
  | some t =>
    by_cases named : t.isEmpty
    · have empty : t = "" := String.isEmpty_iff.mp named
      simp [headerValue, taskLen, empty]
    · have one : ∀ c ∈ (headerValue (some t)).toList, c.utf8Size = 1 := fun c hc =>
        utf8Size_eq_one_iff_toNat_lt.mpr (by
          have := (isFieldText_headerValue (some t)).2 c hc
          simp only [isHeaderChar, Bool.and_eq_true, decide_eq_true_eq] at this
          omega)
      have size : (headerValue (some t)).utf8ByteSize = t.toList.length := by
        rw [utf8ByteSize_eq_byteSize, byteSize_eq_length_iff.mpr one]
        simp [headerValue, named]
      have bytes : taskLen (some t) = byteSize t.toList := by
        simp [taskLen, named, utf8ByteSize_eq_byteSize]
      rw [size, bytes]
      refine ⟨length_le_byteSize _, ?_⟩
      rw [eq_comm, byteSize_eq_length_iff]
      simp [utf8Size_eq_one_iff_toNat_lt]

/-! ### The fallback written out -/

/-- The bounded record as it reads when nothing is cut: nil host and
application, the priority of the whole cleaned line, the task as a header
field. -/
def fallbackText (f : Facility) (raw : String) (task : Option String) : String :=
  "<" ++ toString (f.priority (Severity.ofLine (cleanLine raw))) ++ ">1 - - - " ++ headerValue task ++ " - - " ++
    cleanLine raw

theorem utf8ByteSize_fallbackText (f : Facility) (raw : String) (task : Option String) :
    (fallbackText f raw task).utf8ByteSize = 15 + (toString (f.priority (Severity.ofLine (cleanLine raw)))).length +
      (headerValue task).utf8ByteSize + (cleanLine raw).utf8ByteSize := by
  have opening : ("<" : String).utf8ByteSize = 1 := rfl
  have header : (">1 - - - " : String).utf8ByteSize = 9 := rfl
  have nil_fields : (" - - " : String).utf8ByteSize = 5 := rfl
  simp only [fallbackText, String.utf8ByteSize_append, utf8ByteSize_toString, opening, header, nil_fields]
  omega

/-- A payload within the bound is the cleaned line: the line holds the cleaned
line first and then only some of the line ends after it, which it trims. -/
theorem fallbackPayload_of_fits {raw : String} (h : (cleanLine raw).utf8ByteSize ≤ fallbackCapacity) :
    ((BoundedLine.empty fallbackCapacity).writeAll (segments raw)).trimLineEnds.text = cleanLine raw := by
  have joined : (stripAnsi raw).toList = (segments raw).flatMap String.toList := String.toList_join
  have clean : (cleanLine raw).toList = dropLineEnds (stripAnsi raw).toList := String.toList_ofList
  obtain ⟨ends, split, line_ends, last⟩ := dropLineEnds_spec (stripAnsi raw).toList
  rw [← clean] at split last
  generalize hp : ((BoundedLine.empty fallbackCapacity).writeAll (segments raw)).chars = p
  have greedy : fitting fallbackCapacity (stripAnsi raw).toList <+: p := by
    simpa [← hp, joined, BoundedLine.empty, BoundedLine.size, byteSize] using
      BoundedLine.fitting_prefix_writeAll (BoundedLine.empty fallbackCapacity) (segments raw)
  have sized : byteSize (cleanLine raw).toList ≤ fallbackCapacity := by rwa [← utf8ByteSize_eq_byteSize]
  obtain ⟨rest, hrest⟩ := (IsPrefix.prefix_fitting ⟨ends, split.symm⟩ sized).trans greedy
  have pieces : p.Sublist (stripAnsi raw).toList := by
    simpa [← hp, joined, BoundedLine.empty] using
      BoundedLine.writeAll_sublist (BoundedLine.empty fallbackCapacity) (segments raw)
  rw [← hrest, split, List.append_sublist_append_left] at pieces
  apply String.toList_inj.mp
  simp only [BoundedLine.text, BoundedLine.trimLineEnds, String.toList_ofList, hp, ← hrest]
  exact dropLineEnds_append_of_ends (fun c hc => line_ends c (pieces.subset hc)) last

/-- A fallback within the bound is written out whole. -/
theorem encodeFallback_of_fits (hostname appName task : Option String) (f : Facility) (raw : String)
    (h : (fallbackText f raw task).utf8ByteSize ≤ fallbackCapacity) :
    (Template.new hostname appName f).encodeFallback raw task = ⟨fallbackCapacity, (fallbackText f raw task).toList, false⟩ := by
  have payload : (cleanLine raw).utf8ByteSize ≤ fallbackCapacity := by
    rw [utf8ByteSize_fallbackText] at h
    omega
  have pieces : (["<", toString (f.priority (Severity.ofLine (cleanLine raw))), ">1 - - - "] ++ headerPieces task ++
      [" - - ", cleanLine raw]).flatMap String.toList = (fallbackText f raw task).toList := by
    have field : (headerPieces task).flatMap String.toList = (headerValue task).toList := by
      rw [← headerField_eq_headerValue, headerField, String.toList_join]
    simp [fallbackText, List.flatMap_append, field]
  have facility : (Template.new hostname appName f).facility = f := rfl
  simp only [Template.encodeFallback, fallbackPayload_of_fits payload, facility]
  rw [BoundedLine.writeAll_of_fits, pieces]
  · simp only [BoundedLine.empty, List.nil_append]
  · rw [pieces, ← utf8ByteSize_eq_byteSize]
    simpa [BoundedLine.empty, BoundedLine.size, byteSize] using h

/-! ### The fallback against the record -/

theorem encode_nil_header (f : Facility) (raw : String) (task : Option String) :
    (Template.new none none f).encode raw task =
      "<" ++ toString (f.priority (severityOfRaw raw)) ++ ">1 - - - " ++ taskField task ++ " - - " ++ cleanLine raw := by
  rw [encode_eq]
  apply String.toList_inj.mp
  simp [headerValue, nilValue]

/-- Two records that differ only in their priorities, of as many digits, and
their task fields are the same exactly when these are. -/
theorem record_eq_iff {d₁ d₂ t₁ t₂ m : String} (hd : d₁.length = d₂.length) :
    "<" ++ d₁ ++ ">1 - - - " ++ t₁ ++ " - - " ++ m = "<" ++ d₂ ++ ">1 - - - " ++ t₂ ++ " - - " ++ m ↔
      d₁ = d₂ ∧ t₁ = t₂ := by
  constructor
  · intro h
    have chars := congrArg String.toList h
    simp only [String.toList_append, List.append_assoc] at chars
    obtain ⟨digits, rest⟩ := List.append_inj (List.append_cancel_left chars)
      (by rw [String.length_toList, String.length_toList]; exact hd)
    have task := List.append_cancel_right (List.append_cancel_left rest)
    exact ⟨String.toList_inj.mp digits, String.toList_inj.mp task⟩
  · rintro ⟨rfl, rfl⟩
    rfl

theorem toString_inj {m n : Nat} (h : toString m = toString n) : m = n := by
  rw [← (isDecimal_toString m).2.2, h, (isDecimal_toString n).2.2]

/-- The two paths write priorities of as many digits: both levels are error or
lower, whichever text they are read from. -/
theorem length_toString_fallback_priority (f : Facility) (raw : String) :
    (toString (f.priority (Severity.ofLine (cleanLine raw)))).length =
      (toString (f.priority (severityOfRaw raw))).length :=
  Facility.length_toString_priority (Severity.code_ofLine _).1 (Severity.code_ofLine _).1

/-- The fallback's text is the record with nil host and application exactly
when the task is ASCII and the probe reads the cleaned line's level. -/
theorem fallbackText_eq_encode_iff (f : Facility) (raw : String) (task : Option String) :
    fallbackText f raw task = (Template.new none none f).encode raw task ↔
      (∀ t ∈ task, ∀ c ∈ t.toList, c.toNat < 128) ∧ severityOfRaw raw = Severity.ofLine (cleanLine raw) := by
  rw [fallbackText, encode_nil_header, record_eq_iff (length_toString_fallback_priority f raw)]
  constructor
  · rintro ⟨priority, field⟩
    refine ⟨?_, (Facility.priority_inj (toString_inj priority)).symm⟩
    apply (utf8ByteSize_headerValue task).2.mp
    rw [field, utf8ByteSize_taskField]
  · rintro ⟨ascii, probe⟩
    refine ⟨by rw [probe], ?_⟩
    cases task with
    | none => rfl
    | some t => exact (taskField_of_ascii (ascii t rfl)).symm

/-- **The fallback record agrees with the record as far as the task and the level
allow.** -/
theorem encodeFallback_agrees_iff (hostname appName task : Option String) (f : Facility) (raw : String)
    (hfits : ((Template.new none none f).encode raw task).utf8ByteSize ≤ fallbackCapacity) :
    ((Template.new hostname appName f).encodeFallback raw task).truncated = false ∧
      (((Template.new hostname appName f).encodeFallback raw task).text = (Template.new none none f).encode raw task ↔
        (∀ t ∈ task, ∀ c ∈ t.toList, c.toNat < 128) ∧ severityOfRaw raw = Severity.ofLine (cleanLine raw)) := by
  have digits := length_toString_fallback_priority f raw
  have header : (Template.new none none f).header.utf8ByteSize = 8 := rfl
  have facility : (Template.new none none f).facility = f := rfl
  have field := (utf8ByteSize_headerValue task).1
  have fits : (fallbackText f raw task).utf8ByteSize ≤ fallbackCapacity := by
    rw [utf8ByteSize_encode, header, facility] at hfits
    rw [utf8ByteSize_fallbackText]
    omega
  rw [encodeFallback_of_fits hostname appName task f raw fits]
  refine ⟨rfl, ?_⟩
  simp only [BoundedLine.text, String.ofList_toList]
  exact fallbackText_eq_encode_iff f raw task

/-- The test's warning line, with host and application in the template: the
fallback is not cut, and it is the record with nil host and application exactly
when the conditions hold. -/
theorem warning_fallback_matches :
    ((Template.new none none .local0).encode "W (7) net: slow\n" none).utf8ByteSize ≤ fallbackCapacity ∧
      ((Template.new (some "h") (some "a") .local0).encodeFallback "W (7) net: slow\n" none).truncated = false ∧
      (((Template.new (some "h") (some "a") .local0).encodeFallback "W (7) net: slow\n" none).text =
          (Template.new none none .local0).encode "W (7) net: slow\n" none ↔
        (∀ t ∈ (none : Option String), ∀ c ∈ t.toList, c.toNat < 128) ∧
          severityOfRaw "W (7) net: slow\n" = Severity.ofLine (cleanLine "W (7) net: slow\n")) :=
  have hfits : ((Template.new none none .local0).encode "W (7) net: slow\n" none).utf8ByteSize ≤
      fallbackCapacity := by
    rw [utf8ByteSize_eq_byteSize]
    decide
  ⟨hfits, encodeFallback_agrees_iff (some "h") (some "a") none .local0 "W (7) net: slow\n" hfits⟩

/-- A task of one two-byte character: the record writes `__`, one `_` for each
byte, and the fallback `_`, one for the character. -/
theorem fallback_task_shorter :
    (Template.new none none .local0).encode "x" (some "é") = "<133>1 - - - __ - - x" ∧
      ((Template.new none none .local0).encodeFallback "x" (some "é")).text = "<133>1 - - - _ - - x" := by
  have bytes : utf8Bytes "é" = [0xC3, 0xA9] := by
    rw [utf8Bytes_eq_flatMap]
    decide
  have field : taskField (some "é") = "__" := by
    simp only [taskField, bytes]
    decide
  refine ⟨?_, ?_⟩
  · rw [encode_nil_header, field]
    apply String.toList_inj.mp
    decide
  · apply String.toList_inj.mp
    decide

end Record

end SyslogRelay
