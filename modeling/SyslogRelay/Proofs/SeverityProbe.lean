import SyslogRelay.Proofs.RecordFields

/-!
The severity probe of four bytes against the level of the cleaned line.
-/

namespace SyslogRelay.Text

/-- Cutting a concatenation: the first part is kept whole if it fits, and the
second part is cut in the room it leaves; otherwise the cut falls in the first
part. -/
theorem fitting_append (n : Nat) (a b : List Char) :
    fitting n (a ++ b) = if byteSize a ≤ n then a ++ fitting (n - byteSize a) b else fitting n a := by
  induction a generalizing n with
  | nil => simp [byteSize]
  | cons c a ih =>
    rw [List.cons_append, fitting, fitting, ih, byteSize_cons]
    by_cases hc : c.utf8Size ≤ n
    · by_cases ha : byteSize a ≤ n - c.utf8Size
      · simp [hc, ha, show c.utf8Size + byteSize a ≤ n by omega, Nat.sub_sub]
      · simp [hc, ha, show ¬ c.utf8Size + byteSize a ≤ n by omega]
    · simp [hc, show ¬ c.utf8Size + byteSize a ≤ n by omega]

theorem IsPrefix.prefix_fitting {a cs : List Char} {n : Nat} (h : a <+: cs) (hn : byteSize a ≤ n) :
    a <+: fitting n cs := by
  obtain ⟨rest, rfl⟩ := h
  rw [fitting_append, if_pos hn]
  exact List.prefix_append a _

/-- Dropping the line ends leaves a prefix; what it dropped holds no `(`. -/
theorem dropLineEnds_append (cs : List Char) : ∃ e, dropLineEnds cs ++ e = cs ∧ '(' ∉ e := by
  refine ⟨(cs.reverse.takeWhile fun c => c = '\n' ∨ c = '\r').reverse, ?_, fun hmem => ?_⟩
  · rw [dropLineEnds, ← List.reverse_append, List.takeWhile_append_dropWhile, List.reverse_reverse]
  · have := List.all_eq_true.mp List.all_takeWhile _ (List.mem_reverse.mp hmem)
    simp at this

namespace BoundedLine

theorem chars_write (b : BoundedLine) (s : String) :
    (b.write s).chars = b.chars ++ fitting (b.capacity - b.size) s.toList := rfl

theorem capacity_write (b : BoundedLine) (s : String) : (b.write s).capacity = b.capacity := rfl

theorem size_write (b : BoundedLine) (s : String) :
    (b.write s).size = b.size + byteSize (fitting (b.capacity - b.size) s.toList) :=
  byteSize_append _ _

/-- A write narrows the room by what it kept. -/
theorem room_write (b : BoundedLine) (s : String) :
    (b.write s).capacity - (b.write s).size =
      b.capacity - b.size - byteSize (fitting (b.capacity - b.size) s.toList) := by
  rw [capacity_write, size_write]
  omega

theorem writeAll_cons (b : BoundedLine) (g : String) (gs : List String) :
    b.writeAll (g :: gs) = (b.write g).writeAll gs := rfl

theorem prefix_writeAll (b : BoundedLine) (gs : List String) : b.chars <+: (b.writeAll gs).chars := by
  induction gs generalizing b with
  | nil => exact List.prefix_refl _
  | cons g gs ih =>
    rw [writeAll_cons]
    exact (List.prefix_append _ _).trans (ih (b.write g))

theorem length_writeAll_le (b : BoundedLine) (gs : List String) :
    (b.writeAll gs).chars.length ≤ b.chars.length + (gs.flatMap String.toList).length := by
  induction gs generalizing b with
  | nil => simp [writeAll]
  | cons g gs ih =>
    have kept := (fitting_isPrefixOf (b.capacity - b.size) g.toList).length_le
    have rest := ih (b.write g)
    rw [writeAll_cons, List.flatMap_cons, List.length_append]
    rw [chars_write, List.length_append] at rest
    omega

/-- Writing pieces one at a time keeps at least the longest prefix of their
concatenation that fits: a piece is cut only where the concatenation is. -/
theorem fitting_prefix_writeAll (b : BoundedLine) (gs : List String) :
    b.chars ++ fitting (b.capacity - b.size) (gs.flatMap String.toList) <+: (b.writeAll gs).chars := by
  induction gs generalizing b with
  | nil => simp [writeAll, fitting]
  | cons g gs ih =>
    rw [writeAll_cons, List.flatMap_cons, fitting_append]
    split
    · rename_i fits
      have whole : fitting (b.capacity - b.size) g.toList = g.toList := by
        simpa [fitting_append, fits, fitting] using fitting_append (b.capacity - b.size) g.toList []
      have room := room_write b g
      rw [whole] at room
      simpa [chars_write, whole, room] using ih (b.write g)
    · exact (chars_write b g).symm ▸ prefix_writeAll (b.write g) gs

end BoundedLine

end SyslogRelay.Text

namespace SyslogRelay

open SyslogRelay.Text

namespace Severity

/-- The level of a line is read off its first three characters. -/
theorem ofLine_take (line : String) : ofLine (String.ofList (line.toList.take 3)) = ofLine line := by
  unfold ofLine
  rcases line.toList with _ | ⟨a, _ | ⟨b, _ | ⟨c, x⟩⟩⟩ <;>
    simp only [List.take_succ_cons, List.take_zero, List.take_nil, String.toList_ofList]
  by_cases hb : b = ' ' <;> by_cases hc : c = '(' <;> simp [hb, hc]

/-- A marker is an ASCII letter. -/
theorem lt_of_ofMarker? {b : Nat} {s : Severity} (h : ofMarker? b = some s) : b < 128 := by
  unfold ofMarker? at h
  split at h
  · rename_i hb; rw [hb]; decide
  · split at h
    · rename_i hb; rw [hb]; decide
    · split at h
      · rename_i hb; rw [hb]; decide
      · split at h
        · rename_i hb; rcases hb with hb | hb <;> rw [hb] <;> decide
        · cases h

theorem ofLine_notice_of_third {line : String} (h : line.toList[2]? ≠ some '(') : ofLine line = .notice := by
  unfold ofLine
  split
  · rename_i hl
    simp [hl] at h
  · rfl

/-- Text with no `(` added after a line does not change its level. -/
theorem ofLine_append_of_not_mem (d e : List Char) (he : '(' ∉ e) :
    ofLine (String.ofList (d ++ e)) = ofLine (String.ofList d) := by
  rcases Nat.lt_or_ge d.length 3 with few | many
  · rw [ofLine_notice_of_third, ofLine_notice_of_third]
    · simp [List.getElem?_eq_none (by omega : d.length ≤ 2)]
    · rw [String.toList_ofList, List.getElem?_append_right (by omega)]
      exact fun h => he (List.mem_of_getElem? h)
  · rw [← ofLine_take (String.ofList (d ++ e)), ← ofLine_take (String.ofList d)]
    simp [List.take_append_of_le_length many]

end Severity

namespace Record

/-- The cleaned line has the level of the line without escapes: only line ends
are dropped after it. -/
theorem ofLine_cleanLine (raw : String) : Severity.ofLine (cleanLine raw) = Severity.ofLine (stripAnsi raw) := by
  obtain ⟨e, he, hp⟩ := dropLineEnds_append (stripAnsi raw).toList
  rw [cleanLine, ← Severity.ofLine_append_of_not_mem _ e hp, he, String.ofList_toList]

/-- The probe's first three characters are those of the line without escapes,
when these fit in four bytes together. -/
theorem take_probe {raw : String} (h : byteSize ((stripAnsi raw).toList.take 3) ≤ 4) :
    ((BoundedLine.empty 4).writeAll (segments raw)).chars.take 3 = (stripAnsi raw).toList.take 3 := by
  have joined : (stripAnsi raw).toList = (segments raw).flatMap String.toList := String.toList_join
  have greedy : fitting 4 (stripAnsi raw).toList <+: ((BoundedLine.empty 4).writeAll (segments raw)).chars := by
    simpa [joined, BoundedLine.empty, BoundedLine.size, byteSize] using
      BoundedLine.fitting_prefix_writeAll (BoundedLine.empty 4) (segments raw)
  have short : ((BoundedLine.empty 4).writeAll (segments raw)).chars.length ≤ (stripAnsi raw).toList.length := by
    simpa [joined, BoundedLine.empty] using BoundedLine.length_writeAll_le (BoundedLine.empty 4) (segments raw)
  have head := (IsPrefix.prefix_fitting (List.take_prefix 3 _) h).trans greedy
  generalize ((BoundedLine.empty 4).writeAll (segments raw)).chars = p at greedy short head
  generalize (stripAnsi raw).toList = cs at short head
  rcases Nat.lt_or_ge cs.length 3 with few | many
  · rw [List.take_of_length_le (by omega)] at head ⊢
    rw [← head.eq_of_length_le short, List.take_of_length_le (by omega)]
  · have same := List.prefix_iff_eq_take.mp head
    rw [List.length_take, Nat.min_eq_left many] at same
    exact same.symm

/-- The probe finds the level of the cleaned line whenever the first three
characters of the line without escapes take at most four bytes. -/
theorem severityOfRaw_eq_ofLine {raw : String} (h : byteSize ((stripAnsi raw).toList.take 3) ≤ 4) :
    severityOfRaw raw = Severity.ofLine (cleanLine raw) := by
  rw [ofLine_cleanLine, severityOfRaw, ← Severity.ofLine_take (BoundedLine.text _),
    ← Severity.ofLine_take (stripAnsi raw)]
  simp only [BoundedLine.text, String.toList_ofList, take_probe h]

/-- A line that carries a level is always classified by it. -/
theorem severityOfRaw_of_marked {raw : String} (h : Severity.ofLine (cleanLine raw) ≠ .notice) :
    severityOfRaw raw = Severity.ofLine (cleanLine raw) := by
  apply severityOfRaw_eq_ofLine
  rw [ofLine_cleanLine] at h
  unfold Severity.ofLine at h
  split at h
  · rename_i m _ hm
    cases hs : Severity.ofMarker? m.toNat with
    | none => simp [hs] at h
    | some s =>
      have ascii : m.utf8Size = 1 := by
        rw [Char.utf8Size_eq_one_iff, UInt32.le_iff_toNat_le]
        exact Nat.le_of_lt_succ (Severity.lt_of_ofMarker? hs)
      simp only [hm, List.take_succ_cons, List.take_zero, byteSize, ascii]
      decide
  · exact absurd rfl h

/-- The priority of a record is the facility's code times eight plus the level of
the cleaned line whenever its first three characters take at most four bytes. -/
theorem encode_priority_of_head_fits (hostname appName task : Option String) (f : Facility) (raw : String)
    (h : byteSize ((stripAnsi raw).toList.take 3) ≤ 4) :
    (Template.new hostname appName f).encode raw task =
      "<" ++ toString (f.code * 8 + (Severity.ofLine (cleanLine raw)).code) ++ ">1 - " ++
        headerValue hostname ++ " " ++ headerValue appName ++ " " ++ taskField task ++ " - - " ++ cleanLine raw := by
  rw [encode_eq, severityOfRaw_eq_ofLine h]
  rfl

/-- A marker split from its space by a colour escape is still read. -/
theorem split_marker_priority :
    byteSize ((stripAnsi "\x1b[1mE\x1b[0m (3) t: x\r\n").toList.take 3) ≤ 4 ∧
      (Template.new none none .local0).encode "\x1b[1mE\x1b[0m (3) t: x\r\n" none =
        "<" ++ toString (Facility.local0.code * 8 + (Severity.ofLine (cleanLine "\x1b[1mE\x1b[0m (3) t: x\r\n")).code) ++
          ">1 - " ++ headerValue none ++ " " ++ headerValue none ++ " " ++ taskField none ++ " - - " ++
            cleanLine "\x1b[1mE\x1b[0m (3) t: x\r\n" :=
  ⟨by decide, encode_priority_of_head_fits none none none .local0 _ (by decide)⟩

/-- A four-byte character after the marker does not fit the probe, and the run
after the escape takes its place: the record says error (131), while the
cleaned line has no level and calls for a notice (133). -/
theorem encode_misreads_cut_head :
    (Template.new none none .local0).encode "E😀\x1b[m (1) t: x" none = "<131>1 - - - - - - E😀 (1) t: x" ∧
      Facility.local0.code * 8 + (Severity.ofLine (cleanLine "E😀\x1b[m (1) t: x")).code = 133 := by
  decide

end Record

end SyslogRelay
