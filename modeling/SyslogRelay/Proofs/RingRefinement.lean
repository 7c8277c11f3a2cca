import SyslogRelay.Ring
import SyslogRelay.Proofs.Coalescing

/-!
The ring of a line buffer stores the backlog's list of entries
(`LineBuffer.runCalls_refines`).
-/

namespace SyslogRelay

open SyslogRelay.Text

/-- What a caller asks of a store of console lines. -/
inductive BufferCall
  | append (task : Option String) (text : String)
  | drainOne
  | clear
  | len
  | evicted
  deriving DecidableEq, Repr

/-- What a store of console lines answers. -/
inductive BufferAnswer
  | outcome (o : AppendOutcome)
  | entry (e : Option Entry)
  | count (n : Nat)
  deriving DecidableEq, Repr

namespace Backlog

def call (b : Backlog) : BufferCall → Backlog × BufferAnswer
  | .append task text => ((b.append task text).1, .outcome (b.append task text).2)
  | .drainOne => (b.drainOne.1, .entry b.drainOne.2)
  | .clear => (b.clear.1, .count b.clear.2)
  | .len => (b, .count b.len)
  | .evicted => (b, .count b.evicted)

/-- The calls in turn, with their answers in order. -/
def runCalls (b : Backlog) : List BufferCall → Backlog × List BufferAnswer
  | [] => (b, [])
  | c :: cs => (((b.call c).1.runCalls cs).1, (b.call c).2 :: ((b.call c).1.runCalls cs).2)

/-- At most `capacity` entries, each holding one to 1024 bytes. -/
structure Valid (b : Backlog) : Prop where
  length_le : b.entries.length ≤ b.capacity
  texts : ∀ e ∈ b.entries, e.text ≠ "" ∧ e.text.utf8ByteSize ≤ maxEntryBytes

end Backlog

namespace LineBuffer

def call (lb : LineBuffer) : BufferCall → LineBuffer × BufferAnswer
  | .append task text => ((lb.append task text).1, .outcome (lb.append task text).2)
  | .drainOne => (lb.drainOne.1, .entry lb.drainOne.2)
  | .clear => (lb.clear.1, .count lb.clear.2)
  | .len => (lb, .count lb.len)
  | .evicted => (lb, .count lb.evicted)

/-- The calls in turn, with their answers in order. -/
def runCalls (lb : LineBuffer) : List BufferCall → LineBuffer × List BufferAnswer
  | [] => (lb, [])
  | c :: cs => (((lb.call c).1.runCalls cs).1, (lb.call c).2 :: ((lb.call c).1.runCalls cs).2)

end LineBuffer

/-! ### Slots of a ring -/

/-- Two places less than a full turn apart from one start are different slots. -/
theorem mod_add_inj {s i j c : Nat} (hi : i < c) (hj : j < c) (h : (s + i) % c = (s + j) % c) : i = j := by
  -- the two places differ by less than a turn, and by a multiple of it
  have down := Nat.sub_mod_eq_zero_of_mod_eq h
  have up := Nat.sub_mod_eq_zero_of_mod_eq h.symm
  rw [Nat.mod_eq_of_lt (by omega : s + i - (s + j) < c)] at down
  rw [Nat.mod_eq_of_lt (by omega : s + j - (s + i) < c)] at up
  omega

theorem getD_setIfInBounds (a : Array (Option Entry)) (j i : Nat) (v : Option Entry) :
    (a.setIfInBounds j v).getD i none = if j = i ∧ j < a.size then v else a.getD i none := by
  simp only [Array.getD_eq_getD_getElem?, Array.getElem?_setIfInBounds]
  by_cases hji : j = i
  · subst hji
    by_cases hj : j < a.size
    · simp [hj]
    · simp [hj]
  · simp [hji]

namespace Ring

/-- The ring holds the entries `es` in `c` slots: it counts them, and the slot
`i` places after `start` holds entry `i`, or nothing past the last one. -/
structure Holds (r : Ring) (c : Nat) (es : List Entry) : Prop where
  size : r.slots.size = c
  count : r.count = es.length
  length_le : es.length ≤ c
  start : r.start < c ∨ c = 0
  slots : ∀ i < c, r.slot ((r.start + i) % c) = es[i]?

variable {r : Ring} {c : Nat} {es : List Entry}

theorem holds_replicate (c : Nat) : (⟨Array.replicate c none, 0, 0⟩ : Ring).Holds c [] where
  size := Array.size_replicate
  count := rfl
  length_le := Nat.zero_le c
  start := (Nat.eq_zero_or_pos c).symm
  slots i _ := by simp [slot, Array.getD_eq_getD_getElem?, Array.getElem?_replicate]; split <;> rfl

theorem Holds.newest (h : r.Holds c es) : r.newest = es.getLast? := by
  unfold Ring.newest
  split
  · rename_i hz
    rw [h.count, List.length_eq_zero_iff] at hz
    simp [hz]
  · rename_i hz
    have hlen : es.length - 1 < c := by have := h.length_le; rw [h.count] at hz; omega
    rw [index, h.size, h.count, h.slots _ hlen, List.getLast?_eq_getElem?]

/-- Writing `v` in the slot `p` places after `start` makes the ring hold any
list with `v` at `p` that agrees with the old one everywhere else. -/
theorem Holds.getD_write (h : r.Holds c es) {p : Nat} (hp : p < c) {v : Entry} {es' : List Entry}
    (hat : es'[p]? = some v) (hrest : ∀ i < c, i ≠ p → es'[i]? = es[i]?) {i : Nat} (hi : i < c) :
    (r.slots.setIfInBounds ((r.start + p) % c) (some v)).getD ((r.start + i) % c) none = es'[i]? := by
  rw [getD_setIfInBounds, h.size]
  by_cases hip : i = p
  · subst hip
    simp [Nat.mod_lt _ (by omega : 0 < c), hat]
  · have apart : (r.start + p) % c ≠ (r.start + i) % c := fun hm => hip (mod_add_inj hi hp hm.symm)
    rw [if_neg (fun hm => apart hm.1), hrest i hi hip]
    exact h.slots i hi

/-- Replacing the newest entry in its slot replaces the list's last entry. -/
theorem Holds.setNewest (h : r.Holds c es) (hne : es ≠ []) (e : Entry) :
    (r.setNewest e).Holds c (es.dropLast ++ [e]) := by
  have hpos : 0 < es.length := List.length_pos_iff.mpr hne
  have hlen := h.length_le
  refine ⟨by simp [Ring.setNewest, h.size], by simp [Ring.setNewest, h.count]; omega, by simp; omega,
    h.start, fun i hi => ?_⟩
  simp only [Ring.setNewest, slot, index, h.size, h.count]
  refine h.getD_write (by omega) ?_ (fun j _ hj => ?_) hi
  · rw [List.getElem?_append_right (by simp), List.length_dropLast, Nat.sub_self]
    rfl
  · rcases Nat.lt_or_ge j (es.length - 1) with hlt | hge
    · rw [List.getElem?_append_left (by simp; omega), List.getElem?_dropLast, if_pos hlt]
    · rw [List.getElem?_eq_none (by simp; omega), List.getElem?_eq_none (by omega)]

/-- Putting an entry after the newest appends it to the list. -/
theorem Holds.pushBack (h : r.Holds c es) (hroom : es.length < c) (e : Entry) :
    (r.pushBack e).Holds c (es ++ [e]) := by
  refine ⟨by simp [Ring.pushBack, h.size], by simp [Ring.pushBack, h.count], by simp; omega, h.start,
    fun i hi => ?_⟩
  simp only [Ring.pushBack, slot, index, h.size, h.count]
  refine h.getD_write hroom (by simp) (fun j _ hj => ?_) hi
  rcases Nat.lt_or_ge j es.length with hlt | hge
  · rw [List.getElem?_append_left hlt]
  · rw [List.getElem?_eq_none (by simp; omega), List.getElem?_eq_none (by omega)]

theorem Holds.popFront_nil (h : r.Holds c []) : r.popFront = (r, none) := by
  simp [Ring.popFront, h.count]

/-- Taking out the oldest entry gives the list's head and leaves its tail. -/
theorem Holds.popFront {e : Entry} (h : r.Holds c (e :: es)) :
    r.popFront.2 = some e ∧ r.popFront.1.Holds c es := by
  have hc : 0 < c := by have := h.length_le; simp at this; omega
  have hstart : r.start < c := h.start.resolve_right (by omega)
  have first := h.slots 0 hc
  rw [Nat.add_zero, Nat.mod_eq_of_lt hstart] at first
  have hcount : r.count ≠ 0 := by rw [h.count]; simp
  refine ⟨by simpa [Ring.popFront, hcount] using first, ?_⟩
  have hlen := h.length_le
  simp only [List.length_cons] at hlen
  refine ⟨by simp [Ring.popFront, hcount, h.size], by simp [Ring.popFront, h.count],
    by omega, .inl (by simp [Ring.popFront, hcount, h.size]; exact Nat.mod_lt _ hc), fun i hi => ?_⟩
  simp only [Ring.popFront, hcount, ↓reduceIte, slot, h.size]
  rw [Nat.mod_add_mod, getD_setIfInBounds, h.size]
  by_cases hwrap : i + 1 = c
  · have back : (r.start + 1 + i) % c = r.start := by
      rw [Nat.add_assoc, Nat.add_comm 1 i, hwrap, Nat.add_mod_right, Nat.mod_eq_of_lt hstart]
    rw [back, if_pos ⟨rfl, hstart⟩, List.getElem?_eq_none (by omega)]
  · have next := h.slots (i + 1) (by omega)
    have apart : r.start ≠ (r.start + 1 + i) % c := by
      intro hm
      have same : (r.start + 0) % c = (r.start + (i + 1)) % c := by
        rw [Nat.add_zero, Nat.mod_eq_of_lt hstart, ← Nat.add_comm 1 i, ← Nat.add_assoc]
        exact hm
      have := mod_add_inj hc (by omega : i + 1 < c) same
      omega
    rw [if_neg (fun hm => apart hm.1)]
    simpa [Nat.add_assoc, Nat.add_comm 1 i, slot] using next

/-- Taking out entries until a slot gives nothing empties the ring. -/
theorem Holds.popAll (h : r.Holds c es) : (r.popAll r.count).Holds c [] := by
  rw [h.count]
  induction es generalizing r with
  | nil => exact h
  | cons e es ih =>
    obtain ⟨taken, rest⟩ := h.popFront
    simp only [List.length_cons, Ring.popAll]
    rcases hp : r.popFront with ⟨r', _ | e'⟩
    · rw [hp] at taken; cases taken
    · rw [hp] at rest
      exact ih rest

theorem Holds.restart (h : r.Holds c []) : ({ r with start := 0 } : Ring).Holds c [] where
  size := h.size
  count := h.count
  length_le := Nat.zero_le c
  start := (Nat.eq_zero_or_pos c).symm
  slots i hi := by
    have all : ∀ j < c, r.slot j = none := by
      intro j hj
      have hstart : r.start < c := h.start.resolve_right (by omega)
      have := h.slots ((j + c - r.start) % c) (Nat.mod_lt _ (by omega))
      rwa [Nat.add_mod_mod, show r.start + (j + c - r.start) = j + c by omega, Nat.add_mod_right,
        Nat.mod_eq_of_lt hj, List.getElem?_nil] at this
    simpa [slot] using all (i % c) (Nat.mod_lt _ (by omega))

end Ring

/-! ### A line buffer stores a backlog -/

namespace LineBuffer

/-- The line buffer `lb` stores the backlog `b`: the same capacity and count of
entries pushed out, and its ring holds `b`'s entries. -/
structure Represents (lb : LineBuffer) (b : Backlog) : Prop where
  capacity : lb.capacity = b.capacity
  evicted : lb.evicted = b.evicted
  holds : lb.ring.Holds b.capacity b.entries

variable {lb : LineBuffer} {b : Backlog}

theorem represents_new (c : Nat) : (LineBuffer.new c).Represents (Backlog.new c) :=
  ⟨rfl, rfl, Ring.holds_replicate c⟩

theorem Represents.store (h : lb.Represents b) (task : Option String) (text : String) (hc : b.capacity ≠ 0) :
    (lb.store task text).2 = (b.push task text).2 ∧ (lb.store task text).1.Represents (b.push task text).1 := by
  have full : lb.ring.count = lb.capacity ↔ b.entries.length = b.capacity := by
    rw [h.holds.count, h.capacity]
  simp only [LineBuffer.store, Backlog.push]
  by_cases hfull : b.entries.length = b.capacity
  · obtain ⟨e, rest, hes⟩ : ∃ e rest, b.entries = e :: rest :=
      List.exists_cons_of_ne_nil (fun hn => hc (by simp [hn] at hfull; omega))
    have held := h.holds
    rw [hes] at held
    obtain ⟨-, popped⟩ := held.popFront
    have room : rest.length < b.capacity := by rw [hes] at hfull; simp at hfull; omega
    rw [if_pos (full.mpr hfull), if_pos hfull]
    refine ⟨rfl, h.capacity, by simp [h.evicted], ?_⟩
    rw [hes, List.tail_cons]
    exact popped.pushBack room _
  · have room : b.entries.length < b.capacity := by have := h.holds.length_le; omega
    rw [if_neg (fun hf => hfull (full.mp hf)), if_neg hfull]
    exact ⟨rfl, h.capacity, h.evicted, h.holds.pushBack room _⟩

theorem Represents.append (h : lb.Represents b) (task : Option String) (text : String) :
    (lb.append task text).2 = (b.append task text).2 ∧ (lb.append task text).1.Represents (b.append task text).1 := by
  unfold LineBuffer.append Backlog.append
  rw [h.capacity, h.holds.newest]
  by_cases hon : b.capacity = 0 ∨ text.isEmpty
  · rw [if_pos hon, if_pos hon]
    exact ⟨rfl, h⟩
  · rw [if_neg hon, if_neg hon]
    have hc : b.capacity ≠ 0 := fun hz => hon (.inl hz)
    rcases hlast : b.entries.getLast? with _ | newest
    · exact h.store task text hc
    · by_cases hopen : newest.isOpenFor task
      · have hne : b.entries ≠ [] := fun hn => by simp [hn] at hlast
        dsimp only
        rw [if_pos hopen, if_pos hopen]
        exact ⟨rfl, rfl, h.evicted, h.holds.setNewest hne _⟩
      · dsimp only
        rw [if_neg hopen, if_neg hopen]
        exact h.store task text hc

theorem Represents.drainOne (h : lb.Represents b) :
    lb.drainOne.2 = b.drainOne.2 ∧ lb.drainOne.1.Represents b.drainOne.1 := by
  unfold LineBuffer.drainOne Backlog.drainOne
  rcases hes : b.entries with _ | ⟨e, rest⟩
  · have held := h.holds
    rw [hes] at held
    rw [held.popFront_nil]
    exact ⟨rfl, h.capacity, h.evicted, h.holds⟩
  · have held := h.holds
    rw [hes] at held
    obtain ⟨taken, rest'⟩ := held.popFront
    exact ⟨taken, h.capacity, h.evicted, rest'⟩

theorem Represents.clear (h : lb.Represents b) : lb.clear.2 = b.clear.2 ∧ lb.clear.1.Represents b.clear.1 :=
  ⟨h.holds.count, h.capacity, h.evicted, h.holds.popAll.restart⟩

/-- Every call gets the same answer from a line buffer as from the backlog it
stores, and the two still correspond afterwards. -/
theorem Represents.call (h : lb.Represents b) (c : BufferCall) :
    (lb.call c).2 = (b.call c).2 ∧ (lb.call c).1.Represents (b.call c).1 := by
  cases c with
  | append task text =>
    obtain ⟨same, kept⟩ := h.append task text
    exact ⟨by simp [LineBuffer.call, Backlog.call, same], kept⟩
  | drainOne =>
    obtain ⟨same, kept⟩ := h.drainOne
    exact ⟨by simp [LineBuffer.call, Backlog.call, same], kept⟩
  | clear =>
    obtain ⟨same, kept⟩ := h.clear
    exact ⟨by simp [LineBuffer.call, Backlog.call, same], kept⟩
  | len => exact ⟨by simp [LineBuffer.call, Backlog.call, LineBuffer.len, Backlog.len, h.holds.count], h⟩
  | evicted => exact ⟨by simp [LineBuffer.call, Backlog.call, h.evicted], h⟩

end LineBuffer

/-! ### The shape of a backlog -/

namespace Backlog

variable {b : Backlog}

theorem valid_new (c : Nat) : (Backlog.new c).Valid := ⟨Nat.zero_le c, fun _ he => by cases he⟩

/-- A new entry holds the text cut to 1024 bytes, which keeps at least its first character. -/
theorem text_entry_valid {text : String} (ht : text.isEmpty = false) :
    cutBytes text maxEntryBytes ≠ "" ∧ (cutBytes text maxEntryBytes).utf8ByteSize ≤ maxEntryBytes := by
  have hne : text.toList ≠ [] := fun hn => by simp_all
  refine ⟨fun hz => ?_, ?_⟩
  · have := isEmpty_cutBytes hne (n := maxEntryBytes) (by decide)
    simp [hz] at this
  · rw [utf8ByteSize_eq_byteSize, toList_cutBytes]
    exact byteSize_fitting_le _ _

/-- Entries of one to 1024 bytes stay so with a new entry of a text after them. -/
theorem texts_append_new {es : List Entry} (hes : ∀ e ∈ es, e.text ≠ "" ∧ e.text.utf8ByteSize ≤ maxEntryBytes)
    (task : Option String) {text : String} (ht : text.isEmpty = false) :
    ∀ e ∈ es ++ [⟨task, cutBytes text maxEntryBytes⟩], e.text ≠ "" ∧ e.text.utf8ByteSize ≤ maxEntryBytes := by
  intro e he
  rcases List.mem_append.mp he with he | he
  · exact hes e he
  · simp only [List.mem_singleton] at he
    subst he
    exact text_entry_valid ht

theorem Valid.push (hv : b.Valid) (task : Option String) {text : String} (ht : text.isEmpty = false)
    (hc : b.capacity ≠ 0) : (b.push task text).1.Valid := by
  unfold Backlog.push
  split
  · rename_i hfull
    exact ⟨by simp [hfull]; omega, texts_append_new (fun e he => hv.texts e (List.mem_of_mem_tail he)) task ht⟩
  · exact ⟨by simp; have := hv.length_le; omega, texts_append_new hv.texts task ht⟩

/-- Appending keeps a backlog within its capacity and every entry within one to 1024 bytes. -/
theorem Valid.append (hv : b.Valid) (task : Option String) (text : String) : (b.append task text).1.Valid := by
  unfold Backlog.append
  split
  · exact hv
  · rename_i hon
    have hc : b.capacity ≠ 0 := fun hz => hon (.inl hz)
    have ht : text.isEmpty = false := by simpa using fun hz => hon (.inr hz)
    split
    · rename_i newest hlast
      split
      · have hmem : newest ∈ b.entries := List.mem_of_getLast? hlast
        obtain ⟨nonempty, bounded⟩ := hv.texts newest hmem
        refine ⟨by simp; have := hv.length_le; omega, fun e he => ?_⟩
        rcases List.mem_append.mp he with he | he
        · exact hv.texts e (List.dropLast_subset _ he)
        · simp only [List.mem_singleton] at he
          subst he
          refine ⟨fun hz => nonempty (String.append_eq_empty_iff.mp hz).1, ?_⟩
          have cut := byteSize_fitting_le (maxEntryBytes - newest.text.utf8ByteSize) text.toList
          rw [← toList_cutBytes, ← utf8ByteSize_eq_byteSize] at cut
          rw [String.utf8ByteSize_append]
          omega
      · exact hv.push task ht hc
    · exact hv.push task ht hc

theorem Valid.drainOne (hv : b.Valid) : b.drainOne.1.Valid where
  length_le := by
    rw [drainOne_entries, capacity_drainOne, List.length_tail]
    have := hv.length_le
    omega
  texts e he := by
    rw [drainOne_entries] at he
    exact hv.texts e (List.mem_of_mem_tail he)

theorem Valid.call (hv : b.Valid) (c : BufferCall) : (b.call c).1.Valid := by
  cases c with
  | append task text => exact hv.append task text
  | drainOne => exact hv.drainOne
  | clear => exact ⟨Nat.zero_le _, fun _ he => by cases he⟩
  | len | evicted => exact hv

end Backlog

namespace LineBuffer

/-- **A line buffer runs as the backlog it stores**: the same answers to every
sequence of calls, with its ring holding the backlog's entries. -/
theorem runCalls_refines (c : Nat) (calls : List BufferCall) :
    ((LineBuffer.new c).runCalls calls).2 = ((Backlog.new c).runCalls calls).2 ∧
      ((LineBuffer.new c).runCalls calls).1.Represents ((Backlog.new c).runCalls calls).1 ∧
      ((Backlog.new c).runCalls calls).1.Valid := by
  suffices run : ∀ (lb : LineBuffer) (b : Backlog), lb.Represents b → b.Valid →
      (lb.runCalls calls).2 = (b.runCalls calls).2 ∧ (lb.runCalls calls).1.Represents (b.runCalls calls).1 ∧
        (b.runCalls calls).1.Valid from
    run _ _ (represents_new c) (Backlog.valid_new c)
  induction calls with
  | nil => exact fun lb b h hv => ⟨rfl, h, hv⟩
  | cons call calls ih =>
    intro lb b h hv
    obtain ⟨same, kept⟩ := h.call call
    obtain ⟨rest, held, shaped⟩ := ih _ _ kept (hv.call call)
    exact ⟨by simp [LineBuffer.runCalls, Backlog.runCalls, same, rest], held, shaped⟩

end LineBuffer

end SyslogRelay
