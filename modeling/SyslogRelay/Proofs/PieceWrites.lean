import SyslogRelay.Proofs.EventLine

/-!
What a bounded line holds after writes of pieces and after a termination.
-/

namespace SyslogRelay.Text

theorem fitting_eq_nil_iff (n : Nat) (cs : List Char) :
    fitting n cs = [] ↔ ∀ c ∈ cs.head?, n < c.utf8Size := by
  cases cs with
  | nil => simp [fitting]
  | cons c cs =>
    rw [fitting]
    split <;> simp_all

/-- The longest fitting prefix is the one `fitting` cuts. -/
theorem LongestFit.eq_fitting {n : Nat} {cs p : List Char} (h : LongestFit n cs p) : p = fitting n cs := by
  obtain ⟨hp, hbudget, longest⟩ := h
  obtain ⟨hf, hsize, longest'⟩ := fitting_longest n cs
  have same : p.length = (fitting n cs).length :=
    Nat.le_antisymm (longest' p hp hbudget) (longest _ hf hsize)
  exact (List.prefix_of_prefix_length_le hp hf (Nat.le_of_eq same)).eq_of_length same

theorem longestFit_iff (n : Nat) (cs p : List Char) : LongestFit n cs p ↔ p = fitting n cs :=
  ⟨LongestFit.eq_fitting, fun h => h ▸ fitting_longest n cs⟩

/-- The characters of pieces written one after another. -/
def joined (gs : List String) : List Char := gs.flatMap String.toList

@[simp] theorem joined_nil : joined [] = [] := rfl

@[simp] theorem joined_cons (g : String) (gs : List String) : joined (g :: gs) = g.toList ++ joined gs :=
  List.flatMap_cons

/-- Every piece written after the pieces have overflowed the budget `r`
starts with a character wider than the room their longest fitting prefix
leaves. -/
def LaterPiecesDropped (r : Nat) (gs : List String) : Prop :=
  ∀ pre g post, gs = pre ++ g :: post → r < byteSize (joined pre) →
    ∀ c ∈ g.toList.head?, r - byteSize (fitting r (joined gs)) < c.utf8Size

/-- The first piece never follows an overflow. -/
theorem laterPiecesDropped_cons {r : Nat} {g : String} {gs : List String} :
    LaterPiecesDropped r (g :: gs) ↔ ∀ pre x post, gs = pre ++ x :: post →
      r < byteSize g.toList + byteSize (joined pre) →
      ∀ c ∈ x.toList.head?, r - byteSize (fitting r (joined (g :: gs))) < c.utf8Size := by
  constructor
  · intro h pre x post split past
    exact h (g :: pre) x post (by simp [split]) (by simpa [byteSize_append] using past)
  · intro h pre x post split past
    rcases pre with _ | ⟨y, pre⟩
    · simp [byteSize] at past
    · simp only [List.cons_append, List.cons.injEq] at split
      obtain ⟨rfl, rest⟩ := split
      exact h pre x post rest (by simpa [byteSize_append] using past)

/-- A piece that fits whole only narrows the budget of the pieces after it. -/
theorem laterPiecesDropped_cons_of_fits {r : Nat} {g : String} {gs : List String}
    (fits : byteSize g.toList ≤ r) :
    LaterPiecesDropped r (g :: gs) ↔ LaterPiecesDropped (r - byteSize g.toList) gs := by
  have left : r - byteSize (fitting r (joined (g :: gs))) =
      r - byteSize g.toList - byteSize (fitting (r - byteSize g.toList) (joined gs)) := by
    rw [joined_cons, fitting_append, if_pos fits, byteSize_append]
    omega
  have shift (later : Nat) : r < byteSize g.toList + later ↔ r - byteSize g.toList < later := by omega
  rw [laterPiecesDropped_cons, left]
  simp only [shift, LaterPiecesDropped]

/-- After a piece that overflows, every later piece must keep nothing of the
room the cut leaves. -/
theorem laterPiecesDropped_cons_of_cut {r : Nat} {g : String} {gs : List String}
    (cut : r < byteSize g.toList) :
    LaterPiecesDropped r (g :: gs) ↔
      ∀ x ∈ gs, ∀ c ∈ x.toList.head?, r - byteSize (fitting r g.toList) < c.utf8Size := by
  have kept : fitting r (joined (g :: gs)) = fitting r g.toList := by
    rw [joined_cons, fitting_append, if_neg (by omega)]
  rw [laterPiecesDropped_cons, kept]
  constructor
  · intro h x hx
    obtain ⟨pre, post, split⟩ := List.mem_iff_append.mp hx
    exact h pre x post split (by omega)
  · intro h pre x post split _
    exact h x (split ▸ List.mem_append_right pre List.mem_cons_self)

namespace BoundedLine

/-- Pieces leave a line as it is exactly when none of them starts with a
character that fits the room. -/
theorem writeAll_chars_eq_iff (b : BoundedLine) (gs : List String) :
    (b.writeAll gs).chars = b.chars ↔ ∀ g ∈ gs, ∀ c ∈ g.toList.head?, b.capacity - b.size < c.utf8Size := by
  induction gs generalizing b with
  | nil => simp [writeAll]
  | cons g gs ih =>
    rw [writeAll_cons, List.forall_mem_cons, ← fitting_eq_nil_iff]
    by_cases kept : fitting (b.capacity - b.size) g.toList = []
    · have same : (b.write g).chars = b.chars := by rw [chars_write, kept, List.append_nil]
      rw [← same, ih, room_write, kept]
      simp [byteSize]
    · have longer := (prefix_writeAll (b.write g) gs).length_le
      rw [chars_write, List.length_append] at longer
      have : 0 < (fitting (b.capacity - b.size) g.toList).length := List.length_pos_iff.mpr kept
      simp only [kept, false_and, iff_false]
      intro h
      rw [h] at longer
      omega

/-- A line written piece by piece holds the longest fitting prefix of the
pieces after what it held, exactly when the pieces after the overflow keep
nothing. -/
theorem writeAll_chars_eq_fitting_iff (b : BoundedLine) (gs : List String) :
    (b.writeAll gs).chars = b.chars ++ fitting (b.capacity - b.size) (joined gs) ↔
      LaterPiecesDropped (b.capacity - b.size) gs := by
  induction gs generalizing b with
  | nil => simp [writeAll, fitting, LaterPiecesDropped]
  | cons g gs ih =>
    rw [writeAll_cons, joined_cons, fitting_append]
    by_cases fits : byteSize g.toList ≤ b.capacity - b.size
    · have whole : fitting (b.capacity - b.size) g.toList = g.toList := fitting_of_byteSize_le fits
      have written : (b.write g).chars = b.chars ++ g.toList := by rw [chars_write, whole]
      have room := room_write b g
      rw [whole] at room
      rw [if_pos fits, ← List.append_assoc, ← written, ← room, ih, room,
        laterPiecesDropped_cons_of_fits fits]
    · rw [if_neg fits, ← chars_write, writeAll_chars_eq_iff, room_write,
        laterPiecesDropped_cons_of_cut (by omega)]

/-- **Pieces make the longest fitting prefix only while nothing follows a cut.** -/
theorem writeAll_longestFit_iff (n : Nat) (gs : List String) :
    LongestFit n (joined gs) ((empty n).writeAll gs).chars ↔ LaterPiecesDropped n gs := by
  rw [longestFit_iff]
  exact writeAll_chars_eq_fitting_iff (empty n) gs

/-- Capacity one: `é` is cut away whole, and `a` then fills the byte it left,
though the longest fitting prefix of `éa` is empty. -/
theorem narrow_piece_after_cut_kept :
    ((empty 1).writeAll ["é", "a"]).chars = ['a'] ∧ fitting 1 (joined ["é", "a"]) = [] := by
  constructor <;> rfl

/-- The character before the final line feed is a line feed only when the
trimmed line was full and its last character followed a line feed. -/
theorem newline_before_final_iff (b : BoundedLine) (hcap : b.capacity ≠ 0) :
    b.terminate.chars.dropLast.getLast? = some '\n' ↔
      b.FullOnceTrimmed ∧ (dropLineEnds b.chars).dropLast.getLast? = some '\n' := by
  by_cases hfull : b.FullOnceTrimmed
  · simp [terminate_full b hcap hfull, hfull]
  · obtain ⟨_, -, -, last⟩ := dropLineEnds_spec b.chars
    simp only [terminate_room b hcap hfull, List.dropLast_concat, hfull, false_and, iff_false]
    intro h
    exact last '\n' h (Or.inl rfl)

/-- **Termination of a reachable line.** It ends in a line feed after the trimmed
line, or, when that is full, after the trimmed line less its last character. -/
theorem terminate_spec (n : Nat) (hn : 0 < n) (edits : List Edit) :
    let b := (empty n).replay edits
    let kept := dropLineEnds b.chars
    b.terminate.chars.getLast? = some '\n' ∧
      (byteSize kept < n → b.terminate.chars = kept ++ ['\n'] ∧ b.terminate.truncated = b.truncated) ∧
      (n ≤ byteSize kept → b.terminate.chars = kept.dropLast ++ ['\n'] ∧ b.terminate.truncated = true) ∧
      (b.terminate.chars.dropLast.getLast? = some '\n' ↔
        n ≤ byteSize kept ∧ kept.dropLast.getLast? = some '\n') := by
  intro b kept
  have hcap : b.capacity = n := replay_capacity (empty n) edits
  have bound : byteSize kept ≤ n := by
    have reach : b.size ≤ b.capacity := replay_size_le (empty n) edits (Nat.zero_le _)
    have trimmed : byteSize kept ≤ b.size := size_trimLineEnds_le b
    omega
  have full : b.FullOnceTrimmed ↔ n ≤ byteSize kept := by
    change byteSize kept = b.capacity ↔ _
    omega
  have nonzero : b.capacity ≠ 0 := by omega
  refine ⟨getLast?_terminate b nonzero, fun room => ?_, fun filled => ?_, ?_⟩
  · have := terminate_room b nonzero (fun h => absurd (full.mp h) (by omega))
    simp [this, kept]
  · simp [terminate_full b nonzero (full.mpr filled), kept]
  · rw [newline_before_final_iff b nonzero, full]

/-- A line written as `ab⏎⏎` into eight bytes terminates as `ab⏎`. -/
theorem doubled_line_end_terminated :
    0 < 8 ∧
      let b := (empty 8).replay [.write "ab\n\n"]
      let kept := dropLineEnds b.chars
      b.terminate.chars.getLast? = some '\n' ∧
        (byteSize kept < 8 → b.terminate.chars = kept ++ ['\n'] ∧ b.terminate.truncated = b.truncated) ∧
        (8 ≤ byteSize kept → b.terminate.chars = kept.dropLast ++ ['\n'] ∧ b.terminate.truncated = true) ∧
        (b.terminate.chars.dropLast.getLast? = some '\n' ↔
          8 ≤ byteSize kept ∧ kept.dropLast.getLast? = some '\n') :=
  ⟨by decide, terminate_spec 8 (by decide) [.write "ab\n\n"]⟩

/-- Three bytes `a⏎b` terminate as `a⏎⏎`: the `b` goes, and the line feed
before it is now the last character before the final one. -/
theorem full_line_keeps_inner_newline :
    ((empty 3).replay [.write "a\nb", .terminate]).chars = ['a', '\n', '\n'] := by
  rfl

end BoundedLine

end SyslogRelay.Text
