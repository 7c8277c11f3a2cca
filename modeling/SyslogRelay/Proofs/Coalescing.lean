import SyslogRelay.Proofs.Conservation
import SyslogRelay.Proofs.LineBounds

namespace SyslogRelay.Text

/-- A text that is one whole line: it ends in a line feed and holds no other. -/
def IsLine (s : String) : Prop := s.toList.getLast? = some '\n' ∧ '\n' ∉ s.toList.dropLast

instance (s : String) : Decidable (IsLine s) :=
  inferInstanceAs (Decidable (_ ∧ _))

@[simp] theorem toList_cutBytes (s : String) (n : Nat) : (cutBytes s n).toList = fitting n s.toList :=
  String.toList_ofList

/-- Cutting twice is cutting once, to the smaller budget. -/
theorem fitting_fitting (m n : Nat) (cs : List Char) : fitting m (fitting n cs) = fitting (min m n) cs := by
  induction cs generalizing m n with
  | nil => rfl
  | cons c cs ih =>
    by_cases hn : c.utf8Size ≤ n
    · by_cases hm : c.utf8Size ≤ m
      · have hmin : c.utf8Size ≤ min m n := Nat.le_min.mpr ⟨hm, hn⟩
        simp only [fitting, if_pos hn, if_pos hm, if_pos hmin, ih]
        rw [show min (m - c.utf8Size) (n - c.utf8Size) = min m n - c.utf8Size by omega]
      · have hmin : ¬c.utf8Size ≤ min m n := fun h => hm (Nat.le_trans h (Nat.min_le_left m n))
        simp only [fitting, if_pos hn, if_neg hm, if_neg hmin]
    · have hmin : ¬c.utf8Size ≤ min m n := fun h => hn (Nat.le_trans h (Nat.min_le_right m n))
      simp only [fitting, if_neg hn, if_neg hmin]

theorem cutBytes_cutBytes (s : String) (m n : Nat) : cutBytes (cutBytes s n) m = cutBytes s (min m n) := by
  rw [cutBytes, toList_cutBytes, fitting_fitting, cutBytes]

/-- A leading run that is not all of a list leaves out at least its last element. -/
theorem IsPrefix.prefix_dropLast {p cs : List Char} (h : p <+: cs) (hne : p ≠ cs) : p <+: cs.dropLast := by
  obtain ⟨t, rfl⟩ := h
  have ht : t ≠ [] := by
    rintro rfl
    exact hne (List.append_nil p).symm
  rw [List.dropLast_append_of_ne_nil ht]
  exact List.prefix_append p t.dropLast

/-- Cutting a line keeps its line feed exactly when the whole line fits. -/
theorem getLast?_fitting_of_line {cs : List Char} (hlast : cs.getLast? = some '\n') (hone : '\n' ∉ cs.dropLast)
    (n : Nat) : (fitting n cs).getLast? = some '\n' ↔ byteSize cs ≤ n := by
  constructor
  · intro hkept
    apply Decidable.byContradiction
    intro hbig
    have hcut : fitting n cs ≠ cs := fun same => hbig (same ▸ byteSize_fitting_le n cs)
    have inside := (IsPrefix.prefix_dropLast (fitting_isPrefixOf n cs) hcut).subset (List.mem_of_getLast? hkept)
    exact hone inside
  · intro hfits
    rw [fitting_of_byteSize_le hfits]
    exact hlast

theorem IsLine.getLast?_cutBytes {s : String} (hs : IsLine s) (n : Nat) :
    (cutBytes s n).toList.getLast? = some '\n' ↔ s.utf8ByteSize ≤ n := by
  rw [toList_cutBytes, getLast?_fitting_of_line hs.1 hs.2, utf8ByteSize_eq_byteSize]

theorem IsLine.toList_ne_nil {s : String} (hs : IsLine s) : s.toList ≠ [] :=
  fun h => by simp [IsLine, h] at hs

/-- A run of one character other than a line feed, ended by a line feed, is one line. -/
theorem isLine_replicate {c : Char} (hc : c ≠ '\n') (n : Nat) : IsLine (String.ofList (List.replicate n c) ++ "\n") := by
  have text : (String.ofList (List.replicate n c) ++ "\n").toList = List.replicate n c ++ ['\n'] := by
    rw [String.toList_append, String.toList_ofList]
    rfl
  refine ⟨by rw [text, List.getLast?_concat], ?_⟩
  rw [text, List.dropLast_concat]
  intro h
  exact hc (List.eq_of_mem_replicate h).symm

theorem IsLine.utf8ByteSize_pos {s : String} (hs : IsLine s) : 0 < s.utf8ByteSize := by
  obtain ⟨c, cs, hc⟩ := List.exists_cons_of_ne_nil hs.toList_ne_nil
  rw [utf8ByteSize_eq_byteSize, hc, byteSize_cons]
  have := Char.utf8Size_pos c
  omega

/-- A cut to a budget that holds any one character keeps something of a nonempty text. -/
theorem isEmpty_cutBytes {s : String} (hs : s.toList ≠ []) {n : Nat} (hn : 4 ≤ n) : (cutBytes s n).isEmpty = false := by
  obtain ⟨c, cs, hc⟩ := List.exists_cons_of_ne_nil hs
  have hfirst : c.utf8Size ≤ n := Nat.le_trans (Char.utf8Size_le_four c) hn
  apply Bool.eq_false_iff.mpr
  intro hempty
  have hnil := congrArg String.toList (String.isEmpty_iff.mp hempty)
  rw [toList_cutBytes, hc, fitting, if_pos hfirst] at hnil
  cases hnil

theorem fitting_zero (cs : List Char) : fitting 0 cs = [] := by
  cases cs with
  | nil => rfl
  | cons c cs => simp [fitting, Nat.ne_of_gt (Char.utf8Size_pos c)]

theorem byteSize_replicate (m : Nat) (c : Char) : byteSize (List.replicate m c) = m * c.utf8Size := by
  induction m with
  | zero => simp [byteSize]
  | succ m ih =>
    rw [List.replicate_succ, byteSize_cons, ih, Nat.succ_mul]
    omega

/-- A run of one-byte characters cut within its length keeps exactly as many as the budget. -/
theorem fitting_replicate_append {c : Char} (hc : c.utf8Size = 1) {n m : Nat} (h : n ≤ m) (rest : List Char) :
    fitting n (List.replicate m c ++ rest) = List.replicate n c := by
  induction n generalizing m with
  | zero => exact fitting_zero _
  | succ n ih =>
    obtain ⟨m, rfl⟩ : ∃ m', m = m' + 1 := ⟨m - 1, by omega⟩
    rw [List.replicate_succ, List.cons_append, fitting, if_pos (by omega), hc, Nat.add_sub_cancel,
      ih (by omega), List.replicate_succ]

end SyslogRelay.Text

namespace SyslogRelay.Entry

/-- An open entry grown by a text stays open for its task unless the text ends the line. -/
theorem isOpenFor_grow {n : Entry} {task : Option String} (ho : n.isOpenFor task = true) (t : String) :
    ({ n with text := n.text ++ t } : Entry).isOpenFor task = !(t.toList.getLast? == some '\n') := by
  simp only [isOpenFor, Bool.and_eq_true, Bool.not_eq_true', beq_eq_false_iff_ne] at ho
  obtain ⟨open_, same⟩ := ho
  simp only [isOpenFor, String.toList_append, List.getLast?_append, same, Bool.and_true]
  cases t.toList.getLast? with
  | none => simp [open_]
  | some c => rfl

theorem isOpenFor_new (task : Option String) (t : String) :
    (⟨task, t⟩ : Entry).isOpenFor task = !(t.toList.getLast? == some '\n') := by
  simp [isOpenFor]

end SyslogRelay.Entry

namespace SyslogRelay.Backlog

open SyslogRelay.Text

variable {b : Backlog} {task : Option String} {s : String}

theorem append_stored (hcap : b.capacity ≠ 0) (hs : s.isEmpty = false) : (b.append task s).2 ≠ .disabled := by
  unfold append
  rw [if_neg (by simp [hcap, hs])]
  split
  · split
    · simp
    · unfold push; split <;> simp
  · unfold push; split <;> simp

theorem getLast?_push : (b.push task s).1.entries.getLast? = some ⟨task, cutBytes s maxEntryBytes⟩ := by
  unfold push
  split <;> exact List.getLast?_concat

/-- Text for an open newest entry joins it, cut to the room the entry has left. -/
theorem getLast?_append_of_open (hcap : b.capacity ≠ 0) (hs : s.isEmpty = false) {n : Entry}
    (hn : b.entries.getLast? = some n) (ho : n.isOpenFor task = true) :
    (b.append task s).1.entries.getLast? =
      some { n with text := n.text ++ cutBytes s (maxEntryBytes - n.text.utf8ByteSize) } := by
  unfold append
  rw [if_neg (by simp [hcap, hs]), hn]
  simp only [ho, if_true]
  exact List.getLast?_concat

/-- Text that no newest entry is open for starts a new entry. -/
theorem getLast?_append_of_closed (hcap : b.capacity ≠ 0) (hs : s.isEmpty = false)
    (hn : ∀ n ∈ b.entries.getLast?, n.isOpenFor task = false) :
    (b.append task s).1.entries.getLast? = some ⟨task, cutBytes s maxEntryBytes⟩ := by
  unfold append
  rw [if_neg (by simp [hcap, hs])]
  split
  · rename_i n hn'
    rw [if_neg (by simp [hn n hn'])]
    exact getLast?_push
  · exact getLast?_push

end SyslogRelay.Backlog

namespace SyslogRelay.Relay

open SyslogRelay.Text

/-- The slot hands record `r` to forwarder `k`'s backlog: `k` buffers, or `k`
forwards but `r`'s task is one it cannot forward. -/
def World.Defers (w : World) (k : Nat) (r : LogRecord) : Prop :=
  w.slot.sink = .buffering k ∨ (w.slot.sink = .forwarding k ∧ (w.fwd k).config.isConflicting r.task = true)

instance (w : World) (k : Nat) (r : LogRecord) : Decidable (w.Defers k r) :=
  inferInstanceAs (Decidable (_ ∨ _))

namespace Trail

variable {w : World} {k : Nat} {r : LogRecord} {b : Backlog}

/-- A record the backlog stores leaves the backlog as storing it made it. -/
theorem backlog_defer (hb : (w.fwd k).backlog = some b)
    (hs : (b.append r.task (cutBytes r.text maxLineBytes)).2 ≠ .disabled) :
    ((defer w k r).world.fwd k).backlog = some (b.append r.task (cutBytes r.text maxLineBytes)).1 := by
  have hk := World.lt_length_of_backlog w k hb
  rcases happ : b.append r.task (cutBytes r.text maxLineBytes) with ⟨b', out⟩
  rw [happ] at hs
  unfold defer
  cases out with
  | disabled => exact absurd rfl hs
  | appended | coalesced | evicted =>
    simp [hb, happ, backlog_echo, backlog_count, World.fwd_updateFwd, hk]

theorem dispatch_defers (hi : w.inside = false) (h : w.Defers k r) (env : Surroundings) :
    (dispatch env w r).world = (defer w k r).world := by
  rcases h with h | ⟨h, hc⟩
  · simp only [dispatch, h, bind_world, emit_world]
  · simp only [dispatch, h, bind_world, emit_world, forward, hi, hc, Bool.or_true, if_true]

end Trail

namespace World

variable {env : Surroundings} {w : World} {k : Nat} {r : LogRecord}

/-- Logging a record that forwarder `k` defers keeps the slot. -/
theorem slot_log_of_defers (hw : Reachable env w) (hd : w.Defers k r) : (w.log env r).slot = w.slot := by
  have hc := hw.coherent
  rw [log_eq hc.sound.plain, Trail.dispatch_defers hc.outside hd env]
  exact (Trail.calm_defer w k r).slot

/-- Logging a record that forwarder `k` defers stores its text, cut to a line, in
`k`'s backlog. -/
theorem backlog_log_of_defers (hw : Reachable env w) (hd : w.Defers k r) {b : Backlog}
    (hb : (w.fwd k).backlog = some b) (hs : (b.append r.task (cutBytes r.text maxLineBytes)).2 ≠ .disabled) :
    ((w.log env r).fwd k).backlog = some (b.append r.task (cutBytes r.text maxLineBytes)).1 := by
  have hc := hw.coherent
  rw [log_eq hc.sound.plain, Trail.dispatch_defers hc.outside hd env, Trail.backlog_defer hb hs]

end World

/-- Complete lines are kept apart only while they fit: a stored whole line closes
the newest entry iff it fits `maxLineBytes` and the room an open entry has left. -/
theorem log_line_closes_entry_iff {env : Surroundings} {w : World} (hw : Reachable env w) {k : Nat}
    {r : LogRecord} (hd : w.Defers k r) {b : Backlog} (hb : (w.fwd k).backlog = some b)
    (hcap : b.capacity ≠ 0) (hline : IsLine r.text) :
    ∃ e, ((w.log env r).fwd k).backlog.bind (fun b => b.entries.getLast?) = some e ∧
      (e.isOpenFor r.task = false ↔ r.text.utf8ByteSize ≤ maxLineBytes ∧
        ∀ n ∈ b.entries.getLast?, n.isOpenFor r.task = true →
          n.text.utf8ByteSize + r.text.utf8ByteSize ≤ maxEntryBytes) := by
  have hne : (cutBytes r.text maxLineBytes).isEmpty = false :=
    isEmpty_cutBytes hline.toList_ne_nil (by decide)
  have stored : (b.append r.task (cutBytes r.text maxLineBytes)).2 ≠ .disabled := Backlog.append_stored hcap hne
  have hpos := hline.utf8ByteSize_pos
  rw [World.backlog_log_of_defers hw hd hb stored, Option.bind_some]
  by_cases hopen : ∃ n, b.entries.getLast? = some n ∧ n.isOpenFor r.task = true
  · obtain ⟨n, hn, ho⟩ := hopen
    refine ⟨_, Backlog.getLast?_append_of_open hcap hne hn ho, ?_⟩
    have kept := hline.getLast?_cutBytes (min (maxEntryBytes - n.text.utf8ByteSize) maxLineBytes)
    rw [Entry.isOpenFor_grow ho, cutBytes_cutBytes, Bool.not_eq_false', beq_iff_eq, kept, hn]
    simp only [Option.mem_def, Option.some.injEq, forall_eq', ho, forall_const]
    omega
  · have closed : ∀ n ∈ b.entries.getLast?, n.isOpenFor r.task = false := by
      intro n hn
      exact Bool.eq_false_iff.mpr fun ho => hopen ⟨n, hn, ho⟩
    refine ⟨_, Backlog.getLast?_append_of_closed hcap hne closed, ?_⟩
    rw [Entry.isOpenFor_new, cutBytes_cutBytes, Bool.not_eq_false', beq_iff_eq, hline.getLast?_cutBytes]
    have never : ∀ n ∈ b.entries.getLast?, n.isOpenFor r.task = true →
        n.text.utf8ByteSize + r.text.utf8ByteSize ≤ maxEntryBytes := by
      intro n hn ho
      simp [closed n hn] at ho
    constructor
    · intro h
      exact ⟨Nat.le_trans h (Nat.min_le_right _ _), never⟩
    · rintro ⟨h, -⟩
      exact Nat.le_min.mpr ⟨Nat.le_trans h (by decide), h⟩

/-- A forwarder buffering early stores a line of 210 bytes: the line is cut, and
the entry it leaves stays open for the next text of its task. -/
theorem long_line_leaves_entry_open :
    let env : Surroundings := ⟨Net.Machine.isolated, none⟩
    let w := (World.empty.apply env (.addForwarder (Config.defaults (some "oracle-host")))).apply env
      (.earlyBuffering 0 10)
    let r : LogRecord := ⟨some "main", String.ofList (List.replicate 210 'x') ++ "\n"⟩
    let b : Backlog := ⟨10, [], 0⟩
    ∃ e, ((w.log env r).fwd 0).backlog.bind (fun b => b.entries.getLast?) = some e ∧
      (e.isOpenFor r.task = false ↔ r.text.utf8ByteSize ≤ maxLineBytes ∧
        ∀ n ∈ b.entries.getLast?, n.isOpenFor r.task = true →
          n.text.utf8ByteSize + r.text.utf8ByteSize ≤ maxEntryBytes) := by
  intro env w r b
  have hw : Reachable env w := .next _ (.next _ .start trivial) Nat.zero_lt_one
  exact log_line_closes_entry_iff hw (Or.inl (by decide +kernel)) (b := b) (by decide +kernel) (by decide)
    (isLine_replicate (by decide) 210)

/-- Two lines of one task, the first longer than `maxLineBytes`, buffered early:
the first is cut and loses its line feed, and the second joins its entry. -/
theorem long_line_joined_by_next :
    let env : Surroundings := ⟨Net.Machine.isolated, none⟩
    let buffered := World.empty.run env [.addForwarder (Config.defaults (some "oracle-host")),
      .earlyBuffering 0 10, .log ⟨some "main", String.ofList (List.replicate 210 'x') ++ "\n"⟩,
      .log ⟨some "main", "b\n"⟩]
    (buffered.fwd 0).backlog.map Backlog.entries =
      some [⟨some "main", String.ofList (List.replicate 200 'x') ++ "b\n"⟩] := by
  intro env buffered
  let early := ((World.empty.addForwarder (Config.defaults (some "oracle-host"))).1.earlyBuffering env 0 10).1
  let long : LogRecord := ⟨some "main", String.ofList (List.replicate 210 'x') ++ "\n"⟩
  let short : LogRecord := ⟨some "main", "b\n"⟩
  let cut := String.ofList (List.replicate 200 'x')
  -- the run is the two records logged after the forwarder began to buffer; the fold
  -- is rewritten step by step, since checking its last step by unfolding would make
  -- the kernel evaluate the worlds
  have unfolded : buffered = (early.log env long).log env short := by
    simp only [buffered, World.run]
    rw [List.foldl_cons, List.foldl_cons, List.foldl_cons, List.foldl_cons, List.foldl_nil]
    rfl
  have h0 : Reachable env early :=
    .next (.earlyBuffering 0 10) (.next (.addForwarder (Config.defaults (some "oracle-host"))) .start trivial)
      Nat.zero_lt_one
  have h1 : Reachable env (early.log env long) := .next (.log long) h0 trivial
  have d0 : early.Defers 0 long := Or.inl (by decide +kernel)
  have d1 : (early.log env long).Defers 0 short := by
    left
    rw [World.slot_log_of_defers h0 d0]
    decide +kernel
  have cut_long : cutBytes long.text maxLineBytes = cut := by
    simp only [long, cut, cutBytes, String.toList_append, String.toList_ofList]
    rw [fitting_replicate_append rfl (by decide)]
    rfl
  have cut_size : cut.utf8ByteSize = 200 := by
    rw [utf8ByteSize_eq_byteSize, String.toList_ofList, byteSize_replicate]
    rfl
  have cut_open : (⟨some "main", cut⟩ : Entry).isOpenFor (some "main") = true := by
    have last : cut.toList.getLast? = some 'x' := by
      rw [String.toList_ofList, List.getLast?_replicate, if_neg (by decide)]
    simp only [Entry.isOpenFor, last]
    decide
  have cut_nonempty : cut.isEmpty = false := by
    rw [← cut_long]
    exact isEmpty_cutBytes (isLine_replicate (by decide) 210).toList_ne_nil (by decide)
  have first : ((⟨10, [], 0⟩ : Backlog).append long.task (cutBytes long.text maxLineBytes)) =
      (⟨10, [⟨some "main", cut⟩], 0⟩, .appended) := by
    rw [cut_long, Backlog.append, if_neg (by simp [cut_nonempty])]
    simp [Backlog.push, cutBytes_of_le (show cut.utf8ByteSize ≤ maxEntryBytes by rw [cut_size]; decide), long]
  have second : ((⟨10, [⟨some "main", cut⟩], 0⟩ : Backlog).append short.task
      (cutBytes short.text maxLineBytes)) = (⟨10, [⟨some "main", cut ++ "b\n"⟩], 0⟩, .coalesced) := by
    have whole : cutBytes short.text maxLineBytes = "b\n" := cutBytes_of_le (by decide)
    rw [whole, Backlog.append, if_neg (by decide)]
    simp [short, cut_open, cut_size, cutBytes_of_le (show ("b\n" : String).utf8ByteSize ≤ maxEntryBytes - 200 by decide)]
  have b1 := World.backlog_log_of_defers h0 d0 (b := ⟨10, [], 0⟩) (by decide +kernel) (by rw [first]; decide)
  rw [first] at b1
  have b2 := World.backlog_log_of_defers h1 d1 b1 (by rw [second]; decide)
  rw [second] at b2
  rw [unfolded, b2]
  rfl

end SyslogRelay.Relay
