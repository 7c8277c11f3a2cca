import SyslogRelay.Text.BoundedLine

namespace SyslogRelay.Text

/-- `p` is the longest leading run of `cs` whose encoding fits in `budget` bytes. -/
def LongestFit (budget : Nat) (cs p : List Char) : Prop :=
  p <+: cs ∧ byteSize p ≤ budget ∧ ∀ q, q <+: cs → byteSize q ≤ budget → q.length ≤ p.length

theorem fitting_longest (budget : Nat) (cs : List Char) :
    LongestFit budget cs (fitting budget cs) := by
  refine ⟨fitting_isPrefixOf budget cs, byteSize_fitting_le budget cs, ?_⟩
  induction cs generalizing budget with
  | nil =>
    intro q hq _
    simp [List.prefix_nil.mp hq]
  | cons c cs ih =>
    intro q hq hsize
    rcases List.prefix_cons_iff.mp hq with rfl | ⟨t, rfl, ht⟩
    · simp
    · rw [byteSize_cons] at hsize
      unfold fitting
      split
      · have := ih (budget - c.utf8Size) t ht (by omega)
        simp only [List.length_cons]
        omega
      · omega

theorem byteSize_le_of_isPrefix {p cs : List Char} (h : p <+: cs) : byteSize p ≤ byteSize cs := by
  obtain ⟨t, rfl⟩ := h
  rw [byteSize_append]
  omega

theorem byteSize_dropLast_lt {cs : List Char} (h : cs ≠ []) :
    byteSize cs.dropLast < byteSize cs := by
  induction cs with
  | nil => exact absurd rfl h
  | cons c cs ih =>
    cases cs with
    | nil =>
      have := Char.utf8Size_pos c
      simp [byteSize]
      omega
    | cons d ds =>
      have := ih (List.cons_ne_nil d ds)
      rw [List.dropLast_cons_cons, byteSize_cons, byteSize_cons c]
      omega

theorem byteSize_newline : byteSize ['\n'] = 1 := rfl

theorem utf8ByteSize_ofList (l : List Char) : (String.ofList l).utf8ByteSize = byteSize l := by
  induction l with
  | nil => simp [byteSize]
  | cons c l ih =>
    rw [String.ofList_cons, String.utf8ByteSize_append, String.utf8ByteSize_singleton, ih]
    rfl

theorem utf8ByteSize_eq_byteSize (s : String) : s.utf8ByteSize = byteSize s.toList := by
  rw [← utf8ByteSize_ofList, String.ofList_toList]

theorem fitting_of_byteSize_le {n : Nat} {cs : List Char} (h : byteSize cs ≤ n) : fitting n cs = cs := by
  induction cs generalizing n with
  | nil => rfl
  | cons c cs ih =>
    rw [byteSize_cons] at h
    rw [fitting, if_pos (by omega), ih (by omega)]

/-- A text within the budget is not cut. -/
theorem cutBytes_of_le {s : String} {n : Nat} (h : s.utf8ByteSize ≤ n) : cutBytes s n = s := by
  have size : byteSize s.toList ≤ n := by
    rwa [← utf8ByteSize_ofList, String.ofList_toList]
  rw [cutBytes, fitting_of_byteSize_le size, String.ofList_toList]

theorem dropLineEnds_isPrefix (cs : List Char) : dropLineEnds cs <+: cs := by
  have h := List.reverse_prefix.mpr
    (List.dropWhile_suffix (l := cs.reverse) (fun c => decide (c = '\n' ∨ c = '\r')))
  simpa [dropLineEnds] using h

namespace BoundedLine

/-- One edit of a bounded line. -/
inductive Edit
  | write (s : String)
  | trimLineEnds
  | terminate

/-- Make one edit. -/
def edit (b : BoundedLine) : Edit → BoundedLine
  | .write s => b.write s
  | .trimLineEnds => b.trimLineEnds
  | .terminate => b.terminate

/-- Make edits in order. -/
def replay (b : BoundedLine) (edits : List Edit) : BoundedLine :=
  edits.foldl edit b

/-- A line whose trimmed form is full. -/
def FullOnceTrimmed (b : BoundedLine) : Prop := b.trimLineEnds.size = b.capacity

theorem terminate_full (b : BoundedLine) (hcap : b.capacity ≠ 0) (hfull : b.FullOnceTrimmed) :
    b.terminate = ⟨b.capacity, (dropLineEnds b.chars).dropLast ++ ['\n'], true⟩ := by
  simp only [FullOnceTrimmed, trimLineEnds] at hfull
  simp [terminate, trimLineEnds, hcap, hfull]

theorem terminate_room (b : BoundedLine) (hcap : b.capacity ≠ 0) (hroom : ¬b.FullOnceTrimmed) :
    b.terminate = ⟨b.capacity, dropLineEnds b.chars ++ ['\n'], b.truncated⟩ := by
  simp only [FullOnceTrimmed, trimLineEnds] at hroom
  simp [terminate, trimLineEnds, hcap, hroom]

theorem capacity_terminate (b : BoundedLine) : b.terminate.capacity = b.capacity := by
  by_cases hcap : b.capacity = 0
  · simp [terminate, hcap]
  · by_cases hfull : b.FullOnceTrimmed
    · rw [terminate_full b hcap hfull]
    · rw [terminate_room b hcap hfull]

theorem capacity_edit (b : BoundedLine) (e : Edit) : (b.edit e).capacity = b.capacity := by
  cases e with
  | write s => rfl
  | trimLineEnds => rfl
  | terminate => exact capacity_terminate b

theorem size_trimLineEnds_le (b : BoundedLine) : b.trimLineEnds.size ≤ b.size :=
  byteSize_le_of_isPrefix (dropLineEnds_isPrefix b.chars)

theorem size_terminate_le (b : BoundedLine) (h : b.size ≤ b.capacity) :
    b.terminate.size ≤ b.terminate.capacity := by
  have trimmed := size_trimLineEnds_le b
  simp only [trimLineEnds, size] at trimmed
  by_cases hcap : b.capacity = 0
  · simpa [terminate, hcap] using h
  · by_cases hfull : b.FullOnceTrimmed
    · rw [terminate_full b hcap hfull]
      simp only [FullOnceTrimmed, trimLineEnds, size] at hfull
      have hne : dropLineEnds b.chars ≠ [] := by
        intro hnil
        simp [hnil, byteSize] at hfull
        omega
      have := byteSize_dropLast_lt hne
      simp only [size, byteSize_append, byteSize_newline]
      omega
    · rw [terminate_room b hcap hfull]
      simp only [FullOnceTrimmed, trimLineEnds, size] at hfull h
      simp only [size, byteSize_append, byteSize_newline]
      omega

theorem size_edit_le (b : BoundedLine) (e : Edit) (h : b.size ≤ b.capacity) :
    (b.edit e).size ≤ (b.edit e).capacity := by
  cases e with
  | write s => exact size_write_le b s h
  | trimLineEnds =>
    have := size_trimLineEnds_le b
    simp only [edit, trimLineEnds] at this ⊢
    omega
  | terminate => exact size_terminate_le b h

theorem truncated_edit (b : BoundedLine) (e : Edit) (h : b.truncated = true) :
    (b.edit e).truncated = true := by
  cases e with
  | write s => simp [edit, write, h]
  | trimLineEnds => exact h
  | terminate =>
    by_cases hcap : b.capacity = 0
    · simpa [edit, terminate, hcap] using h
    · by_cases hfull : b.FullOnceTrimmed
      · simp only [edit, terminate_full b hcap hfull]
      · simp only [edit, terminate_room b hcap hfull, h]

theorem write_longest (b : BoundedLine) (s : String) :
    ∃ p, LongestFit (b.capacity - b.size) s.toList p ∧ (b.write s).chars = b.chars ++ p ∧
      ((b.write s).truncated = true ↔ b.truncated = true ∨ p.length < s.length) :=
  ⟨_, fitting_longest _ _, rfl, by simp [write]⟩

theorem replay_capacity (b : BoundedLine) (edits : List Edit) :
    (b.replay edits).capacity = b.capacity := by
  induction edits generalizing b with
  | nil => rfl
  | cons e es ih =>
    simp only [replay, List.foldl_cons] at ih ⊢
    rw [ih, capacity_edit]

theorem replay_size_le (b : BoundedLine) (edits : List Edit) (h : b.size ≤ b.capacity) :
    (b.replay edits).size ≤ (b.replay edits).capacity := by
  induction edits generalizing b with
  | nil => exact h
  | cons e es ih =>
    simp only [replay, List.foldl_cons] at ih ⊢
    exact ih _ (size_edit_le b e h)

/-- From an empty line, after any edits: at most `n` bytes, the next write appends
the longest fitting run of its text, and no edit clears the truncated mark. -/
theorem replay_bounded (n : Nat) (edits : List Edit) (s : String) (e : Edit) :
    let b := (empty n).replay edits
    b.capacity = n ∧ b.size ≤ n ∧
      (∃ p, LongestFit (n - b.size) s.toList p ∧ (b.write s).chars = b.chars ++ p ∧
        ((b.write s).truncated = true ↔ b.truncated = true ∨ p.length < s.length)) ∧
      (b.truncated = true → (b.edit e).truncated = true) := by
  intro b
  have hcap : b.capacity = n := replay_capacity (empty n) edits
  have hsize : b.size ≤ b.capacity :=
    replay_size_le (empty n) edits (by simp [empty, size, byteSize])
  refine ⟨hcap, hcap ▸ hsize, ?_, truncated_edit b e⟩
  rw [← hcap]
  exact write_longest b s

end BoundedLine

end SyslogRelay.Text
