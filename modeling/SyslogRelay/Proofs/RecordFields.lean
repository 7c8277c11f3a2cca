import SyslogRelay.Record.Template

namespace SyslogRelay

/-- A marker letter names error, warning, informational or debug. -/
theorem Severity.code_ofMarker? {b : Nat} {s : Severity} (h : Severity.ofMarker? b = some s) :
    3 ≤ s.code ∧ s.code ≤ 7 := by
  unfold Severity.ofMarker? at h
  split at h
  · cases h; decide
  · split at h
    · cases h; decide
    · split at h
      · cases h; decide
      · split at h
        · cases h; decide
        · cases h

/-- A console line is never judged more urgent than an error. -/
theorem Severity.code_ofLine (line : String) : 3 ≤ (Severity.ofLine line).code ∧ (Severity.ofLine line).code ≤ 7 := by
  unfold Severity.ofLine
  split
  · rename_i m _ _
    cases h : Severity.ofMarker? m.toNat with
    | none => decide
    | some s => exact Severity.code_ofMarker? h
  · decide

theorem Facility.priority_div (f : Facility) (s : Severity) : f.priority s / 8 = f.code := by
  have := s.code_lt
  unfold Facility.priority
  omega

theorem Facility.priority_mod (f : Facility) (s : Severity) : f.priority s % 8 = s.code := by
  have := s.code_lt
  unfold Facility.priority
  omega

namespace Record

open SyslogRelay.Text

/-! ### The priority in decimal -/

/-- `d` writes `n` in decimal without leading zeros. -/
def IsDecimal (d : String) (n : Nat) : Prop :=
  (∀ c ∈ d.toList, c.isDigit) ∧ (d.toList.head? = some '0' → d = "0") ∧
    Nat.ofDigitChars 10 d.toList 0 = n

/-- A positive number's first digit is not a zero. -/
theorem head_toDigits_ne_zero {n : Nat} (hn : 0 < n) : (Nat.toDigits 10 n).head? ≠ some '0' := by
  induction n using Nat.strongRecOn with
  | ind n ih =>
    by_cases small : n < 10
    · rw [Nat.toDigits_of_lt_base small]
      intro h
      have value := Nat.toNat_digitChar_sub_48_of_lt_ten small
      simp only [List.head?_cons, Option.some.injEq] at h
      rw [h] at value
      simp at value
      omega
    · have first := ih (n / 10) (by omega) (by omega)
      rw [Nat.toDigits_of_base_le (by decide) (by omega), List.head?_append]
      cases hd : (Nat.toDigits 10 (n / 10)).head? with
      | none => exact absurd (List.head?_eq_none_iff.mp hd) Nat.toDigits_ne_nil
      | some d => simpa [hd] using first

theorem isDecimal_toString (n : Nat) : IsDecimal (toString n) n := by
  have digits : (toString n).toList = Nat.toDigits 10 n := by
    simp [Nat.toString_eq_repr, Nat.toList_repr]
  refine ⟨fun c hc => ?_, fun h => ?_, ?_⟩
  · rw [digits] at hc
    exact Nat.isDigit_of_mem_toDigits (by decide) (by decide) hc
  · rcases Nat.eq_zero_or_pos n with rfl | hn
    · rfl
    · exact absurd (digits ▸ h) (head_toDigits_ne_zero hn)
  · rw [digits, Nat.ofDigitChars_ten_toDigits]

/-! ### Header fields -/

/-- Text a header field may hold: at least one character, and every character
printable ASCII, so never a space. -/
def IsFieldText (s : String) : Prop := s ≠ "" ∧ ∀ c ∈ s.toList, isHeaderChar c = true

theorem IsFieldText.space_not_mem {s : String} (h : IsFieldText s) : ' ' ∉ s.toList :=
  fun hs => absurd (h.2 ' ' hs) (by decide)

theorem isFieldText_nilValue : IsFieldText nilValue := by
  refine ⟨by simp [nilValue], ?_⟩
  simp [nilValue, isHeaderChar]

/-- What a header field writes for one character of a name. -/
def headerChar (c : Char) : Char := if isHeaderChar c then c else '_'

theorem isHeaderChar_headerChar (c : Char) : isHeaderChar (headerChar c) = true := by
  unfold headerChar
  split
  · assumption
  · decide

/-- A host or application name as a record writes it: nil when absent or empty,
otherwise the name with each character that is not printable ASCII replaced by
one `_`. -/
def headerValue : Option String → String
  | none => nilValue
  | some s => if s.isEmpty then nilValue else s.map headerChar

theorem toList_join_singleton (g : Char → Char) (l : List Char) :
    (String.join (l.map fun c => String.singleton (g c))).toList = l.map g := by
  induction l with
  | nil => rfl
  | cons c l ih => simp [ih]

theorem headerField_eq_headerValue (o : Option String) : headerField o = headerValue o := by
  cases o with
  | none => rfl
  | some s =>
    by_cases hs : s = ""
    · simp [headerField, headerPieces, headerValue, hs]
    · apply String.toList_inj.mp
      simp only [headerField, headerPieces, headerValue, String.isEmpty_iff, hs, ↓reduceIte, String.toList_map]
      exact toList_join_singleton headerChar s.toList

theorem isFieldText_headerValue (o : Option String) : IsFieldText (headerValue o) := by
  cases o with
  | none => exact isFieldText_nilValue
  | some s =>
    by_cases named : s = ""
    · simpa [headerValue, named] using isFieldText_nilValue
    · simp only [headerValue, String.isEmpty_iff, named, ↓reduceIte]
      refine ⟨fun h => named ?_, fun c hc => ?_⟩
      · have := congrArg String.length h
        simpa using this
      · simp only [String.toList_map, List.mem_map] at hc
        obtain ⟨c, -, rfl⟩ := hc
        exact isHeaderChar_headerChar c

/-- Listing a byte array from byte `i` on puts its bytes from `i` on after
those listed so far. -/
theorem ByteArray.toList_loop_eq (bs : ByteArray) (i : Nat) (r : List UInt8) :
    ByteArray.toList.loop bs i r = r.reverse ++ bs.data.toList.drop i := by
  fun_induction ByteArray.toList.loop bs i r with
  | case1 i r hlt ih =>
    have hi : i < bs.data.toList.length := by simpa using hlt
    have hget : bs.get! i = bs.data.toList[i] := by
      simp only [ByteArray.get!, Array.getElem_toList]
      exact getElem!_pos bs.data i (by simpa using hlt)
    rw [ih, List.drop_eq_getElem_cons hi, hget]
    simp
  | case2 i r hge =>
    have : bs.data.toList.length ≤ i := by simpa using hge
    simp [List.drop_eq_nil_of_le this]

/-- The UTF-8 bytes of a string are the encodings of its characters in turn. -/
theorem utf8Bytes_eq_flatMap (t : String) : utf8Bytes t = t.toList.flatMap String.utf8EncodeChar := by
  have encoded : t.toByteArray = t.toList.utf8Encode := by
    rw [← String.toByteArray_ofList, String.ofList_toList]
  rw [utf8Bytes, ByteArray.toList, ByteArray.toList_loop_eq, String.toUTF8_eq_toByteArray, encoded,
    List.utf8Encode.eq_1, List.toList_data_toByteArray]
  simp

theorem length_utf8Bytes (t : String) : (utf8Bytes t).length = t.utf8ByteSize := by
  rw [utf8Bytes, ByteArray.toList, ByteArray.toList_loop_eq, String.toUTF8_eq_toByteArray]
  simp

theorem utf8Bytes_ne_nil {t : String} (h : t ≠ "") : utf8Bytes t ≠ [] := by
  have sized := mt String.utf8ByteSize_eq_zero_iff.mp h
  rw [← List.length_pos_iff, length_utf8Bytes]
  omega

theorem isFieldText_taskField (o : Option String) : IsFieldText (taskField o) := by
  cases o with
  | none => exact isFieldText_nilValue
  | some t =>
    by_cases named : t = ""
    · simpa [taskField, named] using isFieldText_nilValue
    · simp only [taskField, String.isEmpty_iff, named, ↓reduceIte]
      refine ⟨fun h => utf8Bytes_ne_nil named ?_, fun c hc => ?_⟩
      · have := congrArg String.toList h
        simpa using this
      · simp only [String.toList_ofList, List.mem_map] at hc
        obtain ⟨b, -, rfl⟩ := hc
        split
        · rename_i printable
          have hv : b.toNat.isValidChar := Or.inl (by omega)
          have value : (Char.ofNat b.toNat).toNat = b.toNat := by
            rw [Char.ofNat, dif_pos hv]
            rfl
          simp only [isHeaderChar, value]
          simpa using printable
        · decide

/-! ### The record -/

theorem encode_eq (hostname appName task : Option String) (f : Facility) (raw : String) :
    (Template.new hostname appName f).encode raw task =
      "<" ++ toString (f.priority (severityOfRaw raw)) ++ ">1 - " ++ headerValue hostname ++ " " ++
        headerValue appName ++ " " ++ taskField task ++ " - - " ++ cleanLine raw := by
  have payload : Template.message raw = cleanLine raw := rfl
  simp only [Template.encode, Template.new, headerField_eq_headerValue, nilValue, payload]
  apply String.toList_inj.mp
  simp

theorem splitOn_dash (rest : List Char) : ('-' :: ' ' :: rest).splitOn ' ' = ['-'] :: rest.splitOn ' ' :=
  List.splitOn_append_cons_self_of_not_mem (by decide : ' ' ∉ ['-']) rest

/-- Cutting at spaces takes apart fields that hold none. -/
theorem splitOn_fields {first host app task message : List Char} (h0 : ' ' ∉ first) (hh : ' ' ∉ host)
    (ha : ' ' ∉ app) (ht : ' ' ∉ task) :
    (first ++ ' ' :: '-' :: ' ' :: (host ++ ' ' :: (app ++ ' ' :: (task ++ ' ' :: '-' :: ' ' :: '-' :: ' ' :: message)))).splitOn ' ' =
      [first, ['-'], host, app, task, ['-'], ['-']] ++ message.splitOn ' ' := by
  rw [List.splitOn_append_cons_self_of_not_mem h0, splitOn_dash, List.splitOn_append_cons_self_of_not_mem hh,
    List.splitOn_append_cons_self_of_not_mem ha, List.splitOn_append_cons_self_of_not_mem ht, splitOn_dash,
    splitOn_dash]
  rfl

/-- The opening field `<PRI>1` holds digits and brackets only. -/
theorem space_not_mem_opening (n : Nat) : ' ' ∉ '<' :: (toString n).toList ++ ['>', '1'] := by
  intro h
  simp only [List.cons_append, List.mem_cons, List.mem_append] at h
  rcases h with h | h | h | h
  · cases h
  · exact absurd ((isDecimal_toString n).1 ' ' h) (by decide)
  · cases h
  · simp at h

theorem splitOn_encode (hostname appName task : Option String) (f : Facility) (raw : String) :
    ((Template.new hostname appName f).encode raw task).toList.splitOn ' ' =
      [('<' :: (toString (f.priority (severityOfRaw raw))).toList ++ ['>', '1']), ['-'],
        (headerValue hostname).toList, (headerValue appName).toList, (taskField task).toList, ['-'], ['-']] ++
        (cleanLine raw).toList.splitOn ' ' := by
  have spelled : ((Template.new hostname appName f).encode raw task).toList =
      ('<' :: (toString (f.priority (severityOfRaw raw))).toList ++ ['>', '1']) ++ ' ' :: '-' :: ' ' ::
        ((headerValue hostname).toList ++ ' ' :: ((headerValue appName).toList ++ ' ' ::
          ((taskField task).toList ++ ' ' :: '-' :: ' ' :: '-' :: ' ' :: (cleanLine raw).toList))) := by
    rw [encode_eq]
    simp
  rw [spelled]
  exact splitOn_fields (space_not_mem_opening _) (isFieldText_headerValue hostname).space_not_mem
    (isFieldText_headerValue appName).space_not_mem (isFieldText_taskField task).space_not_mem

/-- The record of a console line, cut at its spaces, gives back its first seven
fields, and what follows them, joined with spaces, is the message. -/
theorem encode_reads_back (hostname appName task : Option String) (f : Facility) (raw : String) :
    ∃ s, 3 ≤ s ∧ s ≤ 7 ∧
      (Template.new hostname appName f).encode raw task =
        "<" ++ toString (f.code * 8 + s) ++ ">1 - " ++ headerValue hostname ++ " " ++
          headerValue appName ++ " " ++ taskField task ++ " - - " ++ cleanLine raw ∧
      IsDecimal (toString (f.code * 8 + s)) (f.code * 8 + s) ∧
      IsFieldText (headerValue hostname) ∧ IsFieldText (headerValue appName) ∧ IsFieldText (taskField task) ∧
      (∃ rest, ((Template.new hostname appName f).encode raw task).toList.splitOn ' ' =
          [('<' :: (toString (f.code * 8 + s)).toList ++ ['>', '1']), ['-'], (headerValue hostname).toList,
            (headerValue appName).toList, (taskField task).toList, ['-'], ['-']] ++ rest ∧
          [' '].intercalate rest = (cleanLine raw).toList) ∧
      (f.code * 8 + s) / 8 = f.code ∧ (f.code * 8 + s) % 8 = s := by
  obtain ⟨lo, hi⟩ := Severity.code_ofLine ((BoundedLine.empty 4).writeAll (segments raw)).text
  exact ⟨(severityOfRaw raw).code, lo, hi, encode_eq hostname appName task f raw, isDecimal_toString _,
    isFieldText_headerValue hostname, isFieldText_headerValue appName, isFieldText_taskField task,
    ⟨_, splitOn_encode hostname appName task f raw, List.intercalate_splitOn ' '⟩,
    Facility.priority_div f _, Facility.priority_mod f _⟩

end Record

end SyslogRelay
