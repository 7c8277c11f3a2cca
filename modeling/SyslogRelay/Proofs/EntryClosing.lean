import SyslogRelay.Proofs.RingRefinement

namespace SyslogRelay

open SyslogRelay.Text

/-- The bytes that text from `task` can still add after `newest`, the newest
entry of a store if there is one: what an entry open for the task has left under
`maxEntryBytes`, and a whole entry's worth when the text starts a new one. -/
def roomFor (newest : Option Entry) (task : Option String) : Nat :=
  match newest with
  | some n => if n.isOpenFor task then maxEntryBytes - n.text.utf8ByteSize else maxEntryBytes
  | none => maxEntryBytes

/-- An entry of a task is closed for it exactly when its text ends in a line feed. -/
theorem Entry.getLast?_eq_iff_of_isOpenFor {e : Entry} {task : Option String} {t : String} (he : e.task = task)
    (h : e.isOpenFor task = !(t.toList.getLast? == some '\n')) :
    e.text.toList.getLast? = some '\n' ↔ t.toList.getLast? = some '\n' := by
  simp only [Entry.isOpenFor, ← he, beq_self_eq_true, Bool.and_true, Bool.not_inj_iff] at h
  rw [← beq_iff_eq, h, beq_iff_eq]

namespace Backlog

variable {b : Backlog} {task : Option String} {s : String}

theorem capacity_call (b : Backlog) (call : BufferCall) : (b.call call).1.capacity = b.capacity := by
  cases call with
  | append task text => exact capacity_append b task text
  | drainOne => exact capacity_drainOne b
  | clear | len | evicted => rfl

theorem capacity_runCalls (b : Backlog) (calls : List BufferCall) : (b.runCalls calls).1.capacity = b.capacity := by
  induction calls generalizing b with
  | nil => rfl
  | cons call calls ih => exact (ih _).trans (capacity_call b call)

/-- After text is stored, the newest entry is the task's, and it stays open for
the task unless the part of the text that fits the room ends in a line feed. -/
theorem isOpenFor_append (hcap : b.capacity ≠ 0) (hs : s.isEmpty = false) :
    ∃ e, (b.append task s).1.entries.getLast? = some e ∧ e.task = task ∧
      e.isOpenFor task = !((cutBytes s (roomFor b.entries.getLast? task)).toList.getLast? == some '\n') := by
  by_cases hopen : ∃ n, b.entries.getLast? = some n ∧ n.isOpenFor task = true
  · obtain ⟨n, hn, ho⟩ := hopen
    have same : n.task = task := by
      simp only [Entry.isOpenFor, Bool.and_eq_true, beq_iff_eq] at ho
      exact ho.2
    refine ⟨_, getLast?_append_of_open hcap hs hn ho, same, ?_⟩
    rw [Entry.isOpenFor_grow ho, hn, roomFor, if_pos ho]
  · have closed : ∀ n ∈ b.entries.getLast?, n.isOpenFor task = false := fun n hn =>
      Bool.eq_false_iff.mpr fun ho => hopen ⟨n, hn, ho⟩
    have room : roomFor b.entries.getLast? task = maxEntryBytes := by
      rcases hn : b.entries.getLast? with _ | n
      · rfl
      · rw [roomFor, if_neg (by simp [closed n hn])]
    refine ⟨_, getLast?_append_of_closed hcap hs closed, rfl, ?_⟩
    rw [Entry.isOpenFor_new, room]

end Backlog

namespace LineBuffer

variable {lb : LineBuffer} {b : Backlog}

/-- A line buffer goes on storing the backlog it stores, call after call. -/
theorem Represents.runCalls (h : lb.Represents b) (calls : List BufferCall) :
    (lb.runCalls calls).1.Represents (b.runCalls calls).1 := by
  induction calls generalizing lb b with
  | nil => exact h
  | cons call calls ih => exact ih (h.call call).2

theorem capacity_runCalls_new (c : Nat) (calls : List BufferCall) :
    ((LineBuffer.new c).runCalls calls).1.capacity = c := by
  rw [((represents_new c).runCalls calls).capacity, Backlog.capacity_runCalls]
  rfl

theorem Represents.isOpenFor_append (h : lb.Represents b) {task : Option String} {s : String} (hcap : lb.capacity ≠ 0)
    (hs : s.isEmpty = false) :
    ∃ e, (lb.append task s).1.ring.newest = some e ∧ e.task = task ∧
      e.isOpenFor task = !((cutBytes s (roomFor lb.ring.newest task)).toList.getLast? == some '\n') := by
  rw [(h.append task s).2.holds.newest, h.holds.newest]
  exact Backlog.isOpenFor_append (h.capacity ▸ hcap) hs

/-- **A terminated text closes the newest entry when it fits.** Over any calls, a
text ending in a line feed closes the entry iff the part of it that fits does. -/
theorem append_terminated_closes_iff (c : Nat) (hc : 0 < c) (calls : List BufferCall) (task : Option String)
    {x : String} (hx : x.toList.getLast? = some '\n') :
    let lb := ((LineBuffer.new c).runCalls calls).1
    (lb.append task x).2 ≠ .disabled ∧
      ∃ e, (lb.append task x).1.ring.newest = some e ∧ e.task = task ∧
        (e.text.toList.getLast? = some '\n' ↔ (fitting (roomFor lb.ring.newest task) x.toList).getLast? = some '\n') ∧
        (x.utf8ByteSize ≤ roomFor lb.ring.newest task → e.text.toList.getLast? = some '\n') ∧
        ('\n' ∉ x.toList.dropLast →
          (e.text.toList.getLast? = some '\n' ↔ x.utf8ByteSize ≤ roomFor lb.ring.newest task)) := by
  intro lb
  have h := (represents_new c).runCalls calls
  have hcap : lb.capacity ≠ 0 := by
    rw [capacity_runCalls_new]
    omega
  have hs : x.isEmpty = false :=
    Bool.eq_false_iff.mpr fun hempty => by simp [String.isEmpty_iff.mp hempty] at hx
  have stored : (lb.append task x).2 ≠ .disabled := by
    rw [(h.append task x).1]
    exact Backlog.append_stored (h.capacity ▸ hcap) hs
  obtain ⟨e, he, mine, opens⟩ := h.isOpenFor_append hcap hs
  have closes := Entry.getLast?_eq_iff_of_isOpenFor mine opens
  rw [toList_cutBytes] at closes
  refine ⟨stored, e, he, mine, closes, fun hfits => ?_, fun hone => ?_⟩
  · rw [closes, fitting_of_byteSize_le (by rwa [← utf8ByteSize_eq_byteSize])]
    exact hx
  · rw [closes, getLast?_fitting_of_line hx hone, utf8ByteSize_eq_byteSize]


/-- A line that finishes a partial line of its task fits the room the entry has
left, and closes it. -/
theorem finished_line_closes_entry :
    0 < 2 ∧ ("done\n" : String).toList.getLast? = some '\n' ∧
      let lb := ((LineBuffer.new 2).runCalls [.append (some "A") "partial "]).1
      (lb.append (some "A") "done\n").2 ≠ .disabled ∧
        ∃ e, (lb.append (some "A") "done\n").1.ring.newest = some e ∧ e.task = some "A" ∧
          (e.text.toList.getLast? = some '\n' ↔
            (fitting (roomFor lb.ring.newest (some "A")) ("done\n" : String).toList).getLast? = some '\n') ∧
          (("done\n" : String).utf8ByteSize ≤ roomFor lb.ring.newest (some "A") → e.text.toList.getLast? = some '\n') ∧
          ('\n' ∉ ("done\n" : String).toList.dropLast →
            (e.text.toList.getLast? = some '\n' ↔ ("done\n" : String).utf8ByteSize ≤ roomFor lb.ring.newest (some "A"))) :=
  ⟨by decide, by decide, append_terminated_closes_iff 2 (by decide) [.append (some "A") "partial "] (some "A") (by decide)⟩

/-- A line of 1024 bytes and its line feed, appended to a new line buffer of two
slots, is cut to its 1024 bytes and leaves the entry open; the next line of the
task is then counted as stored, and the newest entry stays as it was. -/
theorem full_entry_drops_next_line :
    let lb := ((LineBuffer.new 2).append (some "A") (String.ofList (List.replicate 1024 'x') ++ "\n")).1
    lb.ring.newest = some ⟨some "A", String.ofList (List.replicate 1024 'x')⟩ ∧
      (lb.append (some "A") "b\n").2 = .coalesced ∧ (lb.append (some "A") "b\n").1.ring.newest = lb.ring.newest := by
  intro lb
  let full := String.ofList (List.replicate 1024 'x')
  have full_size : full.utf8ByteSize = maxEntryBytes := by
    rw [utf8ByteSize_eq_byteSize, String.toList_ofList, byteSize_replicate]
    rfl
  have full_open : (⟨some "A", full⟩ : Entry).isOpenFor (some "A") = true := by
    have last : full.toList.getLast? = some 'x' := by
      rw [String.toList_ofList, List.getLast?_replicate, if_neg (by decide)]
    simp only [Entry.isOpenFor, last]
    decide
  have nonempty : (full ++ "\n").isEmpty = false :=
    Bool.eq_false_iff.mpr fun hempty =>
      (isLine_replicate (show 'x' ≠ '\n' by decide) 1024).toList_ne_nil (by rw [String.isEmpty_iff.mp hempty]; rfl)
  have cut : cutBytes (full ++ "\n") maxEntryBytes = full := by
    apply String.toList_inj.mp
    rw [toList_cutBytes, String.toList_append, String.toList_ofList]
    exact fitting_replicate_append rfl (Nat.le_refl _) _
  have first : (Backlog.new 2).append (some "A") (full ++ "\n") = (⟨2, [⟨some "A", full⟩], 0⟩, .appended) := by
    rw [Backlog.append, if_neg (by simp [Backlog.new, nonempty])]
    simp [Backlog.new, Backlog.push, cut]
  have second : (⟨2, [⟨some "A", full⟩], 0⟩ : Backlog).append (some "A") "b\n" =
      (⟨2, [⟨some "A", full⟩], 0⟩, .coalesced) := by
    rw [Backlog.append, if_neg (by decide)]
    simp [full_open, full_size, cutBytes, fitting_zero]
  have stored : lb = ((LineBuffer.new 2).append (some "A") (full ++ "\n")).1 := rfl
  have h1 := ((represents_new 2).append (some "A") (full ++ "\n")).2
  rw [first] at h1
  obtain ⟨same, h2⟩ := h1.append (some "A") "b\n"
  rw [second] at same h2
  have newest := h1.holds.newest
  rw [List.getLast?_singleton] at newest
  have kept := h2.holds.newest
  rw [List.getLast?_singleton, ← newest] at kept
  rw [stored]
  exact ⟨newest, same, kept⟩

end LineBuffer

end SyslogRelay
