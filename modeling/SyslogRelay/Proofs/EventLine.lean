import SyslogRelay.Proofs.SeverityProbe
import SyslogRelay.Proofs.EscapeGrammar
import SyslogRelay.Proofs.Coalescing

namespace SyslogRelay.Text

/-- A prefix that does not end in a line end survives dropping the line ends. -/
theorem prefix_dropLineEnds {p cs : List Char} (hp : p <+: cs) (hlast : ∀ c ∈ p.getLast?, ¬ IsLineEnd c) :
    p <+: dropLineEnds cs := by
  obtain ⟨ends, split, hends, -⟩ := dropLineEnds_spec cs
  have kept : dropLineEnds cs <+: cs := ⟨ends, split.symm⟩
  rcases Nat.le_total p.length (dropLineEnds cs).length with short | long
  · exact List.prefix_of_prefix_length_le hp kept short
  · obtain ⟨x, rfl⟩ := List.prefix_of_prefix_length_le kept hp long
    have into : x <+: ends := by
      refine (List.prefix_append_right_inj (dropLineEnds cs)).mp ?_
      rw [← split]
      exact hp
    cases hx : x.getLast? with
    | none => simp [List.getLast?_eq_none_iff.mp hx]
    | some c =>
      have hc : c ∈ (dropLineEnds cs ++ x).getLast? := by simp [List.getLast?_append, hx]
      exact absurd (hends c (into.subset (List.mem_of_getLast? hx))) (hlast c hc)

/-- Text that holds no escape character joins the scanner's first run. -/
theorem ansiRuns_append_of_plain {p : List Char} (hp : '\x1b' ∉ p) (run q : List Char) :
    ansiRuns run (p ++ q) = ansiRuns (p.reverse ++ run) q := by
  induction p generalizing run with
  | nil => rfl
  | cons c p ih =>
    have hc : c ≠ '\x1b' := fun h => hp (h ▸ List.mem_cons_self)
    rw [List.cons_append, ansiRuns.eq_3 _ _ _ fun _ h _ => hc h,
      ih (fun h => hp (List.mem_cons_of_mem c h))]
    simp

/-- The scanner's first run starts with the run it gathered. -/
theorem ansiRuns_head (run cs : List Char) : ∃ g gs, ansiRuns run cs = (run.reverse ++ g) :: gs := by
  induction cs generalizing run with
  | nil => exact ⟨[], [], by simp [ansiRuns]⟩
  | cons c rest ih =>
    by_cases opens : ∃ t, c = '\x1b' ∧ rest = '[' :: t
    · obtain ⟨t, rfl, rfl⟩ := opens
      exact ⟨[], skipEscape t, by simp [ansiRuns]⟩
    · obtain ⟨g, gs, hg⟩ := ih (c :: run)
      refine ⟨c :: g, gs, ?_⟩
      rw [ansiRuns.eq_3 _ _ _ fun t hc ht => opens ⟨t, hc, ht⟩, hg]
      simp

/-- A head with no escape character stays at the head once escapes are removed. -/
theorem prefix_stripAnsi {p : List Char} {s : String} (hp : p <+: s.toList) (hplain : '\x1b' ∉ p) :
    p <+: (stripAnsi s).toList := by
  obtain ⟨q, hq⟩ := hp
  obtain ⟨g, gs, hg⟩ := ansiRuns_head p.reverse q
  rw [toList_stripAnsi, ← hq, ansiRuns_append_of_plain hplain, List.append_nil, hg, List.reverse_reverse]
  exact ⟨g ++ gs.flatten, by simp⟩

namespace BoundedLine

theorem capacity_writeAll (b : BoundedLine) (gs : List String) : (b.writeAll gs).capacity = b.capacity := by
  induction gs generalizing b with
  | nil => rfl
  | cons g gs ih => rw [writeAll_cons, ih, capacity_write]

theorem size_writeAll_le (b : BoundedLine) (gs : List String) (h : b.size ≤ b.capacity) :
    (b.writeAll gs).size ≤ b.capacity := by
  induction gs generalizing b with
  | nil => exact h
  | cons g gs ih =>
    rw [writeAll_cons]
    exact ih (b.write g) (size_write_le b g h)

/-- A terminated line ends in a line feed. -/
theorem getLast?_terminate (b : BoundedLine) (hcap : b.capacity ≠ 0) :
    b.terminate.chars.getLast? = some '\n' := by
  by_cases hfull : b.FullOnceTrimmed
  · simp [terminate_full b hcap hfull]
  · simp [terminate_room b hcap hfull]

/-- Terminating keeps a head that does not end in a line end and leaves room
after it: only line ends, and then one character when the line is full, go. -/
theorem prefix_terminate {b : BoundedLine} {p : List Char} (hcap : b.capacity ≠ 0) (hp : p <+: b.chars)
    (hlast : ∀ c ∈ p.getLast?, ¬ IsLineEnd c) (hroom : byteSize p < b.capacity) :
    p <+: b.terminate.chars := by
  have kept := prefix_dropLineEnds hp hlast
  by_cases hfull : b.FullOnceTrimmed
  · -- a full line is longer than the head, so the character it gives up lies after it
    have longer : p ≠ dropLineEnds b.chars := by
      rintro rfl
      simp only [FullOnceTrimmed, trimLineEnds, size] at hfull
      omega
    rw [terminate_full b hcap hfull]
    exact (IsPrefix.prefix_dropLast kept longer).trans (List.prefix_append _ _)
  · rw [terminate_room b hcap hfull]
    exact kept.trans (List.prefix_append _ _)

end BoundedLine

end SyslogRelay.Text

namespace SyslogRelay.Diagnostic

open SyslogRelay.Text

/-- The head of an event's line takes three bytes. -/
theorem Level.byteSize_head (l : Level) : byteSize [l.marker, ' ', '('] = 3 := by
  cases l <;> rfl

/-- Every level's marker names a severity. -/
theorem Level.ofMarker?_marker (l : Level) : (Severity.ofMarker? l.marker.toNat).isSome = true := by
  cases l <;> decide

/-- What each level's marker names: debug and trace both name debug, and no
marker names a notice. -/
theorem Level.ofMarker?_marker_table {l : Level} {s : Severity} (h : Severity.ofMarker? l.marker.toNat = some s) :
    s ≠ .notice ∧ (l = .error → s = .error) ∧ (l = .warn → s = .warning) ∧
      (l = .info → s = .informational) ∧ (l = .debug ∨ l = .trace → s = .debug) := by
  cases l <;> simp only [Level.marker, Severity.ofMarker?] at h <;> simp at h <;> subst h <;> simp

namespace Event

variable (e : Event) (stamp : String)

/-- The line before it is terminated starts with the marker and ` (`: these
are written first and fit, and later writes only add after them. -/
theorem head_prefix_written :
    [e.level.marker, ' ', '('] <+: ((BoundedLine.empty lineCapacity).writeAll
      [String.singleton e.level.marker, " (", stamp, ") ", e.target, ": ", e.messageLine.text,
        e.fieldsLine.text]).chars := by
  have head : byteSize [e.level.marker, ' ', '('] ≤ lineCapacity := by
    simp [Level.byteSize_head, lineCapacity]
  have greedy := BoundedLine.fitting_prefix_writeAll (BoundedLine.empty lineCapacity)
    [String.singleton e.level.marker, " (", stamp, ") ", e.target, ": ", e.messageLine.text, e.fieldsLine.text]
  simp only [BoundedLine.empty, BoundedLine.size, byteSize, Nat.sub_zero, List.nil_append] at greedy
  refine (IsPrefix.prefix_fitting ?_ head).trans greedy
  exact ⟨List.flatMap String.toList [stamp, ") ", e.target, ": ", e.messageLine.text, e.fieldsLine.text],
    by simp⟩

theorem head_prefix : [e.level.marker, ' ', '('] <+: (e.line stamp).chars := by
  refine BoundedLine.prefix_terminate (by simp [BoundedLine.capacity_writeAll, BoundedLine.empty, lineCapacity])
    (head_prefix_written e stamp) (by simp [IsLineEnd]) ?_
  simp [BoundedLine.capacity_writeAll, BoundedLine.empty, Level.byteSize_head, lineCapacity]

theorem getLast?_line : (e.line stamp).chars.getLast? = some '\n' :=
  BoundedLine.getLast?_terminate _ (by simp [BoundedLine.capacity_writeAll, BoundedLine.empty, lineCapacity])

theorem size_line_le : (e.line stamp).size ≤ lineCapacity := by
  have written := BoundedLine.size_writeAll_le (BoundedLine.empty lineCapacity)
    [String.singleton e.level.marker, " (", stamp, ") ", e.target, ": ", e.messageLine.text, e.fieldsLine.text]
    (by simp [BoundedLine.empty, BoundedLine.size, byteSize])
  have ended := BoundedLine.size_terminate_le _ (by rw [BoundedLine.capacity_writeAll]; exact written)
  rwa [BoundedLine.capacity_terminate, BoundedLine.capacity_writeAll] at ended

theorem toList_render : (e.render stamp).toList = (e.line stamp).chars := by
  simp [render, BoundedLine.text]

/-- The severity the encoder derives from an event's line is its marker's: the
marker, the space and the parenthesis head the line without escapes, and take
three bytes. -/
theorem severityOfRaw_render :
    Severity.ofMarker? e.level.marker.toNat = some (Record.severityOfRaw (e.render stamp)) := by
  have head : [e.level.marker, ' ', '('] <+: (stripAnsi (e.render stamp)).toList := by
    refine prefix_stripAnsi ((toList_render e stamp).symm ▸ head_prefix e stamp) ?_
    cases e.level <;> decide
  obtain ⟨rest, hrest⟩ := head
  have probe : byteSize ((stripAnsi (e.render stamp)).toList.take 3) ≤ 4 := by
    rw [← hrest]
    simp [Level.byteSize_head]
  rw [Record.severityOfRaw_eq_ofLine probe, Record.ofLine_cleanLine]
  obtain ⟨s, hs⟩ := Option.isSome_iff_exists.mp (Level.ofMarker?_marker e.level)
  simp [Severity.ofLine, ← hrest, hs]

/-- **An event's line is a well-formed console line:** 1 to 200 bytes, ending in a
line feed and starting with the level's marker and ` (`. -/
theorem render_is_console_line :
    1 ≤ (e.render stamp).utf8ByteSize ∧ (e.render stamp).utf8ByteSize ≤ lineCapacity ∧
      (e.render stamp).toList.getLast? = some '\n' ∧
      [e.level.marker, ' ', '('] <+: (e.render stamp).toList ∧
      cutBytes (e.render stamp) Relay.maxLineBytes = e.render stamp ∧
      (∀ task t, (Entry.mk task (cutBytes (e.render stamp) Relay.maxLineBytes)).isOpenFor t = false) ∧
      Severity.ofMarker? e.level.marker.toNat = some (Record.severityOfRaw (e.render stamp)) ∧
      Record.severityOfRaw (e.render stamp) ≠ .notice ∧
      (e.level = .error → Record.severityOfRaw (e.render stamp) = .error) ∧
      (e.level = .warn → Record.severityOfRaw (e.render stamp) = .warning) ∧
      (e.level = .info → Record.severityOfRaw (e.render stamp) = .informational) ∧
      (e.level = .debug ∨ e.level = .trace → Record.severityOfRaw (e.render stamp) = .debug) := by
  have size : (e.render stamp).utf8ByteSize = (e.line stamp).size := by
    rw [utf8ByteSize_eq_byteSize, toList_render]
    rfl
  have last : (e.render stamp).toList.getLast? = some '\n' := by
    rw [toList_render, getLast?_line]
  have nonempty : 1 ≤ (e.render stamp).utf8ByteSize := by
    obtain ⟨init, hinit⟩ := List.getLast?_eq_some_iff.mp last
    rw [utf8ByteSize_eq_byteSize, hinit, byteSize_append, byteSize_newline]
    omega
  have whole : cutBytes (e.render stamp) Relay.maxLineBytes = e.render stamp :=
    cutBytes_of_le (size ▸ size_line_le e stamp)
  have severity := severityOfRaw_render e stamp
  exact ⟨nonempty, size ▸ size_line_le e stamp, last, (toList_render e stamp).symm ▸ head_prefix e stamp,
    whole, fun task t => by simp [Entry.isOpenFor, whole, last], severity, Level.ofMarker?_marker_table severity⟩

end Event

end SyslogRelay.Diagnostic
