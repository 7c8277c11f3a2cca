import SyslogRelay.Proofs.Conservation
import SyslogRelay.Proofs.Provenance

namespace SyslogRelay.Relay

namespace Effect

/-- The record an effect of forwarder `k` puts in the sink it replaced: one
written there in place of being sent, or a mirrored copy. A notice puts none. -/
def written (k : Nat) : Effect → List LogRecord
  | .wrote j _ r | .mirrored j _ r => if j = k then [r] else []
  | _ => []

end Effect

/-- The records forwarder `k` put in the sink it replaced, in order. -/
def written (k : Nat) (es : List Effect) : List LogRecord := es.flatMap (Effect.written k)

section Written

variable (k : Nat) (e : Effect) (es es' : List Effect)

@[simp] theorem written_nil : written k [] = [] := rfl
@[simp] theorem written_cons : written k (e :: es) = e.written k ++ written k es := List.flatMap_cons
@[simp] theorem written_append : written k (es ++ es') = written k es ++ written k es' := List.flatMap_append

end Written

end SyslogRelay.Relay

namespace SyslogRelay.Backlog

theorem entries_drainOne {b b' : Backlog} {e : Entry} (h : b.drainOne = (b', some e)) :
    b.entries = e :: b'.entries := by
  unfold drainOne at h
  split at h
  · cases h
  · rename_i e' rest hb
    cases h
    simp [hb]

end SyslogRelay.Backlog

namespace SyslogRelay.Relay

namespace World

/-- The entries waiting in forwarder `k`'s backlog, oldest first. -/
def entries (w : World) (k : Nat) : List Entry := ((w.fwd k).backlog.map Backlog.entries).getD []

@[simp] theorem mirror_updateFwd (w : World) (k j : Nat) {f : Forwarder → Forwarder}
    (hf : ∀ x, (f x).mirror = x.mirror) : ((w.updateFwd k f).fwd j).mirror = (w.fwd j).mirror :=
  fwd_updateFwd_view w k j f Forwarder.mirror hf

theorem entries_eq {v w : World} {k : Nat} (h : (v.fwd k).backlog = (w.fwd k).backlog) : v.entries k = w.entries k := by
  simp [entries, h]

/-- A step of the drain loop takes the oldest waiting entry; the rest waits in
the world where the entry is counted. -/
theorem entries_drained {w : World} {k : Nat} {b : Backlog} {e : Entry}
    (hd : (w.fwd k).backlog.map Backlog.drainOne = some (b, some e)) :
    w.entries k = e :: b.entries ∧ ((w.updateFwd k fun f => { f with backlog := some b }).count k
      fun s => { s with drained := s.drained + 1 }).entries k = b.entries := by
  obtain ⟨b0, hb0, hdrain⟩ := Option.map_eq_some_iff.mp hd
  constructor
  · simp [entries, hb0, Backlog.entries_drainOne hdrain]
  · rw [entries, Trail.backlog_drained w k hd]
    rfl

end World

/-- What forwarder `k`, handed `r`, puts in the sink it replaced along `t`: the
entries that waited, from some entry on, and then `r` once. -/
def WritesOnce (k : Nat) (w : World) (r : LogRecord) (t : Trail) : Prop :=
  (∃ rest, rest <:+ w.entries k ∧ written k t.effects = rest.map LogRecord.ofEntry ++ [r]) ∨
    (written k t.effects = [] ∧ (w.fwd k).mirror = false)

namespace WritesOnce

variable {k : Nat} {v w : World} {r : LogRecord} {t : Trail}

theorem of_written (h : written k t.effects = [r]) : WritesOnce k w r t :=
  .inl ⟨[], List.nil_suffix, by simpa using h⟩

/-- Effects that write nothing may come first, on the way from `w` to a world
where a suffix of what waited still waits and the mirror flag is the same. -/
theorem after {es : List Effect} (hes : written k es = []) (he : v.entries k <:+ w.entries k)
    (hm : (v.fwd k).mirror = (w.fwd k).mirror) (h : WritesOnce k v r t) : WritesOnce k w r (t.after es) := by
  rcases h with ⟨rest, hrest, hw⟩ | ⟨hw, hmv⟩
  · exact .inl ⟨rest, hrest.trans he, by simp [hes, hw]⟩
  · exact .inr ⟨by simp [hes, hw], hm ▸ hmv⟩

end WritesOnce

namespace Trail

variable {w : World} {k j : Nat} {r : LogRecord}

@[simp] theorem within_effects (t : Trail) (b : Bool) : (t.within b).effects = t.effects := rfl

@[simp] theorem written_fallBack (P : Sink) (r : LogRecord) :
    written k (fallBack w j P r).effects = if j = k then [r] else [] := by
  simp [fallBack, Effect.written]

@[simp] theorem written_notice (P : Sink) (e : Net.LinkError) : written k (notice w j P e).effects = [] := by
  simp [notice, Effect.written]

theorem written_replay (P : Sink) (es : List Entry) :
    written k (replay w j P es).effects = if j = k then es.map LogRecord.ofEntry else [] := by
  induction es generalizing w with
  | nil => simp [replay]
  | cons e es ih =>
    simp only [replay, bind_effects, written_append, ih, written_fallBack]
    split <;> simp

theorem written_echo (r : LogRecord) :
    written k (echo w j r).effects = if j = k ∧ (w.fwd j).mirror = true then [r] else [] := by
  unfold echo
  by_cases h : j = k
  · subst h
    split <;> rename_i hm <;> simp [hm, Effect.written]
  · split <;> simp [h, Effect.written]

/-- Effects that write nothing, then the copy of the record: it is written once
when the forwarder mirrors, and not at all otherwise. -/
theorem writesOnce_echo {u : World} {es : List Effect} (hes : written k es = [])
    (hm : (u.fwd k).mirror = (w.fwd k).mirror) (r : LogRecord) : WritesOnce k w r ((echo u k r).after es) := by
  cases hw : (w.fwd k).mirror
  · exact .inr ⟨by simp [hes, written_echo, hm, hw], hw⟩
  · exact .of_written (by simp [hes, written_echo, hm, hw])

theorem written_defer_of_ne (h : j ≠ k) (r : LogRecord) : written k (defer w j r).effects = [] := by
  unfold defer
  dsimp only
  split
  · simp [h]
  · split
    · simp [h]
    · simp [written_echo, h, Effect.written]

theorem written_dispatchInside (hb : w.slot.sink ≠ .buffering k) (hf : w.slot.sink ≠ .forwarding k)
    (r : LogRecord) : written k (dispatchInside w r).effects = [] := by
  unfold dispatchInside
  split
  · rename_i i hi
    have hi : i ≠ k := fun h => hb (h ▸ hi)
    simp [written_defer_of_ne hi, Effect.written]
  · rename_i i hi
    have hi : i ≠ k := fun h => hf (h ▸ hi)
    simp [written_defer_of_ne hi, Effect.written]
  · rfl

theorem written_announce (hb : w.slot.sink ≠ .buffering k) (hf : w.slot.sink ≠ .forwarding k)
    (env : Surroundings) (e : Diagnostic.Event) : written k (announce env w e).effects = [] := by
  unfold announce
  split
  · split
    · exact written_dispatchInside hb hf _
    · rfl
  · rfl

/-- Over wires that log nothing, a send of forwarder `k` leaves a calm world
with the backlog as it was, and writes nothing. -/
theorem transmit_quiet (hq : w.Quiet) (env : Surroundings) (link : Link) (task : Option String) (text : String) :
    World.Calm w (transmit env w k link task text).1.world ∧
      ((transmit env w k link task text).1.world.fwd k).backlog = (w.fwd k).backlog ∧
      written k (transmit env w k link task text).1.effects = [] := by
  refine ⟨calm_transmit w k env link task text, backlog_transmit hq env link task text k, ?_⟩
  rw [effects_transmit hq]
  split <;> simp [Effect.written]

/-- Giving up writes what waits and then the record. -/
theorem written_disable (m : World) (err : Net.LinkError) (P : Sink) (r : LogRecord) :
    written k (disable m k err P r).effects = (m.entries k).map LogRecord.ofEntry ++ [r] := by
  have counted : (((m.updateFwd k fun f => { f with state := .restoring }).count k
      fun s => { s with failures := s.failures + 1 }).fwd k).backlog = (m.fwd k).backlog := by
    rw [backlog_count, World.backlog_updateFwd _ _ _ (fun f => { f with state := .restoring }) fun _ => rfl]
  simp only [disable, World.takeBacklog, counted]
  cases hb : (m.fwd k).backlog <;> simp [World.entries, hb, written_replay]

/-- A deferred record is written at once when the backlog cannot take it,
copied when it is stored while the forwarder mirrors, and otherwise not written. -/
theorem writesOnce_defer (r : LogRecord) : WritesOnce k w r (defer w k r) := by
  unfold defer
  dsimp only
  split
  · exact .of_written (by simp)
  · split
    · exact .of_written (by simp)
    · rename_i b' out _ _
      have same : ((((if out = .evicted then (w.updateFwd k fun f => { f with backlog := some b' }).count k
            fun s => { s with evicted := s.evicted + 1 }
          else w.updateFwd k fun f => { f with backlog := some b' }).count k
            fun s => { s with buffered := s.buffered + 1 }).fwd k).mirror = (w.fwd k).mirror) := by
        split <;> simp only [World.count, World.mirror_updateFwd, implies_true]
      exact writesOnce_echo (by simp [Effect.written]) same r

/-- Tearing down after a failed send writes the entry that failed, then what
waits, then the record. -/
theorem written_teardown {m : World} (ha : (m.fwd k).state = .active) (err : Net.LinkError)
    (unsent : Option Entry) (r : LogRecord) :
    written k (teardown m k err unsent r).effects = (unsent.toList ++ m.entries k).map LogRecord.ofEntry ++ [r] := by
  unfold teardown
  cases unsent with
  | none =>
    simp only [bind, idle, after, ha, ne_eq, not_true_eq_false, ↓reduceIte, List.nil_append]
    simp [written_disable]
  | some e =>
    have still : ((fallBack m k (m.previousSink k) (LogRecord.ofEntry e)).world.fwd k).state = .active := by
      rw [((calm_fallBack m k (m.previousSink k) _).steady k).2.1, ha]
    have kept : (fallBack m k (m.previousSink k) (LogRecord.ofEntry e)).world.entries k = m.entries k :=
      World.entries_eq (backlog_fallBack m k k _ _)
    dsimp only
    simp only [bind]
    rw [if_neg (by rw [still]; exact fun h => h rfl)]
    simp [written_disable, kept]

theorem written_giveUp {v : World} (ha : (v.fwd k).state = .active) (link : Link) (err : Net.LinkError)
    (unsent : Option Entry) (r : LogRecord) :
    written k (giveUp v k link err unsent r).effects = (unsent.toList ++ v.entries k).map LogRecord.ofEntry ++ [r] := by
  have same : (((v.updateFwd k fun f => { f with link := none }).closeChannel link.channel).fwd k) =
      (v.updateFwd k fun f => { f with link := none }).fwd k := World.closeChannel_fwd _ _ k
  have kept : ((v.updateFwd k fun f => { f with link := none }).closeChannel link.channel).entries k = v.entries k :=
    World.entries_eq (by rw [same, World.backlog_updateFwd _ _ _ (fun f => { f with link := none }) fun _ => rfl])
  unfold giveUp
  rw [written_teardown (by rw [same, World.state_updateFwd _ _ _ (fun f => { f with link := none }) fun _ => rfl, ha]),
    kept]

/-- Once nothing is left to drain the record is sent: it is copied after a send
that went through when the forwarder mirrors, and written after what waits when
the send fails. -/
theorem writesOnce_sendLast (hq : w.Quiet) (ha : (w.fwd k).state = .active) (env : Surroundings)
    (r : LogRecord) (link : Link) : WritesOnce k w r (sendLast env w k r link) := by
  obtain ⟨calm, kept, said⟩ := transmit_quiet (k := k) hq env link r.task (Text.cutBytes r.text maxLineBytes)
  unfold sendLast
  generalize transmit env w k link r.task (Text.cutBytes r.text maxLineBytes) = out at calm kept said
  rcases out with ⟨t, link', _ | ⟨⟩⟩ <;> dsimp only at calm kept said ⊢
  · refine .inl ⟨w.entries k, List.suffix_refl _, ?_⟩
    rw [bind_effects, written_append, said, written_giveUp ((calm.steady k).2.1.trans ha), World.entries_eq kept]
    simp
  · have hm : ((t.world.updateFwd k fun f => { f with link := some link' }).fwd k).mirror = (w.fwd k).mirror := by
      simp only [World.mirror_updateFwd, implies_true, (calm.steady k).2.2.2.2.1]
    exact writesOnce_echo said hm r

/-- The drain loop sends what waits, oldest first; when a send fails it writes
the entry that failed and everything behind it, and then the record. -/
theorem writesOnce_drainThenSend (env : Surroundings) (r : LogRecord) (pending : Nat) {w : World} {link : Link}
    (hq : w.Quiet) (ha : (w.fwd k).state = .active) : WritesOnce k w r (drainThenSend env w k r link pending) := by
  fun_induction drainThenSend env w k r link pending with
  | case1 w link | case4 w link _ _ => exact writesOnce_sendLast hq ha env r link
  | case2 w link pending b entry hd v u t link' sent ih =>
    have calmed := World.calm_drainOne_of_map w k hd
    obtain ⟨calm, kept, said⟩ := transmit_quiet (k := k) (hq.calm calmed) env link entry.task entry.text
    rw [sent] at calm kept said
    have c := calmed.trans calm
    have later := ih t.world ((hq.calm c).updateFwd k _)
      (by rw [World.state_updateFwd _ _ _ (fun f => { f with link := some link' }) fun _ => rfl,
        (c.steady k).2.1, ha])
    refine later.after said ?_ ?_
    · obtain ⟨front, left⟩ := World.entries_drained hd
      have rest : (t.world.updateFwd k fun f => { f with link := some link' }).entries k = b.entries := by
        rw [← left]
        exact World.entries_eq (by simp [kept])
      rw [rest, front]
      exact List.suffix_cons entry b.entries
    · simp only [World.mirror_updateFwd, implies_true, (c.steady k).2.2.2.2.1]
  | case3 w link pending b entry hd v u t link' err failed =>
    have calmed := World.calm_drainOne_of_map w k hd
    obtain ⟨calm, kept, said⟩ := transmit_quiet (k := k) (hq.calm calmed) env link entry.task entry.text
    rw [failed] at calm kept said
    have c := calmed.trans calm
    obtain ⟨front, left⟩ := World.entries_drained hd
    refine .inl ⟨w.entries k, List.suffix_refl _, ?_⟩
    rw [bind_effects, written_append, said, written_giveUp ((c.steady k).2.1.trans ha), front,
      World.entries_eq kept, left]
    simp

/-- A forwarder that takes a record defers it, or sends it after what waits. -/
theorem writesOnce_forward (ha : (w.fwd k).state = .active) (hq : w.Quiet) (env : Surroundings) (r : LogRecord) :
    WritesOnce k w r (forward env w k r) := by
  unfold forward
  split
  · exact writesOnce_defer r
  · dsimp only
    split
    · exact .of_written (by simp)
    · exact writesOnce_drainThenSend (w := { w with inside := true }) env r _ hq ha

/-- A record handed to forwarder `k`'s sink. -/
theorem writesOnce_dispatch (hs : w.Sound) (hq : w.Quiet)
    (hslot : w.slot.sink = .buffering k ∨ w.slot.sink = .forwarding k) (env : Surroundings) (r : LogRecord) :
    WritesOnce k w r (dispatch env w r) := by
  have took : written k [.took k r] = [] := by simp [Effect.written]
  unfold dispatch
  rcases hslot with hb | hf
  · simp only [hb]
    exact (writesOnce_defer r).after took (List.suffix_refl _) rfl
  · simp only [hf]
    exact (writesOnce_forward (hs.active_of_forwarding hf) hq env r).after took (List.suffix_refl _) rfl

/-- Draining a backlog taken at a stop writes nothing until a send fails; then
it writes the entry that failed and leaves the rest to be written. Together
these are the taken entries from some entry on. -/
theorem written_drainTaken (env : Surroundings) (P : Sink) (link : Link) (es : List Entry) {w : World}
    (hq : w.Quiet) :
    ∃ s, s <:+ es ∧ written k (drainTaken env w k P link es).1.effects ++
      (drainTaken env w k P link es).2.1.map LogRecord.ofEntry = s.map LogRecord.ofEntry := by
  induction es generalizing w link with
  | nil => exact ⟨[], List.nil_suffix, by simp [drainTaken]⟩
  | cons e es ih =>
    have counted := World.calm_count w k fun s => { s with drained := s.drained + 1 }
    obtain ⟨calm, -, said⟩ := transmit_quiet (k := k) (hq.calm counted) env link e.task e.text
    simp only [drainTaken]
    generalize transmit env _ k link e.task e.text = out at said calm
    rcases out with ⟨t, link', _ | ⟨⟩⟩ <;> dsimp only at said calm ⊢
    · exact ⟨e :: es, List.suffix_refl _, by simp [said]⟩
    · obtain ⟨s, hs, hw⟩ := ih link' (w := t.world) (hq.calm (counted.trans calm))
      exact ⟨s, hs.trans (List.suffix_cons e es), by simp [said, hw]⟩

/-- Once forwarder `k` gave the slot back, the slot holds no sink of `k`, so
its note is not written by `k`. -/
theorem written_release_announce {v : World} {P : Sink} (hP : P.isLocal = true) (hslot : v.slot.Plain)
    (env : Surroundings) (e : Diagnostic.Event) :
    written k (announce env (((v.flush P).restoreIf k P).1.settle k) e).effects = [] := by
  have free : (((v.flush P).restoreIf k P).1.settle k).slot.sink ≠ .buffering k ∧
      (((v.flush P).restoreIf k P).1.settle k).slot.sink ≠ .forwarding k := by
    simp only [World.slot_settle, World.restoreIf_slot, World.flush_slot, Installed.restoreIf]
    split
    · exact World.Sink.not_handler_of_isLocal hP k
    · rename_i hk
      rcases hslot with ⟨hl, -⟩ | ⟨i, hi, hp⟩
      · exact World.Sink.not_handler_of_isLocal hl k
      · have hik : i ≠ k := fun h => hk (h ▸ hp)
        rcases hi with hi | hi <;> rw [hi] <;> simp [hik]
  exact written_announce free.1 free.2 env e

/-- The end of a stop: the replay of what is left, steps that write nothing and
keep the world calm, and the note once the slot is given back. Of these only
the replay writes. -/
theorem written_replay_release (hs : w.Sound) (env : Surroundings) {x : World} (hx : x.slot = w.slot)
    (rest : List Entry) {g : World → Trail} (hg : ∀ v, written k (g v).effects = [] ∧ World.Calm v (g v).world)
    (e : World → Diagnostic.Event) :
    written k ((replay x k (w.previousSink k) rest).bind fun v => (g v).bind fun v =>
      announce env (((v.flush (w.previousSink k)).restoreIf k (w.previousSink k)).1.settle k) (e v)).effects =
      rest.map LogRecord.ofEntry := by
  have calm := calm_replay x k (w.previousSink k) rest
  obtain ⟨noted, calm'⟩ := hg (replay x k (w.previousSink k) rest).world
  have plain : (g (replay x k (w.previousSink k) rest).world).world.slot.Plain := by
    rw [calm'.slot, calm.slot, hx]
    exact hs.plain.slot
  simp [written_replay, noted, written_release_announce (hs.plain.previous k) plain]

/-- Stopping writes what waited, from some entry on: nothing when every entry
is sent, else the entry whose send failed and everything behind it. -/
theorem written_stop (hs : w.Sound) (hq : w.Quiet) (env : Surroundings) :
    ∃ rest, rest <:+ w.entries k ∧ written k (stop env w k).effects = rest.map LogRecord.ofEntry := by
  by_cases unused : (w.fwd k).state = .uninstalled
  · exact ⟨[], List.nil_suffix, by simp [stop, unused]⟩
  simp only [stop, World.fwd_inside, unused, ↓reduceIte, World.takeLink, World.takeBacklog, World.link_updateFwd,
    World.backlog_updateFwd, World.previousSink_updateFwd, World.previousSink_inside, implies_true, within_effects]
  generalize hu : (((({ w with inside := true } : World).updateFwd k fun f => { f with state := .restoring }).updateFwd k
    fun f => { f with link := none }).updateFwd k fun f => { f with backlog := none }) = u
  have quiet : u.Quiet := hu ▸ hq
  have kept : u.slot = w.slot := hu ▸ rfl
  have quietly : ∀ v, written k (idle v).effects = [] ∧ World.Calm v (idle v).world :=
    fun v => ⟨rfl, World.Calm.refl v⟩
  cases hb : (w.fwd k).backlog with
  | none =>
    cases hl : (w.fwd k).link with
    | none => exact ⟨[], List.nil_suffix, written_replay_release hs env kept [] quietly _⟩
    | some l =>
      exact ⟨[], List.nil_suffix,
        written_replay_release hs env (x := u.closeChannel l.channel) (by rw [World.closeChannel_slot, kept]) []
          quietly _⟩
  | some b =>
    have hw : w.entries k = b.entries := by simp [World.entries, hb]
    cases hl : (w.fwd k).link with
    | none => exact ⟨b.entries, hw ▸ List.suffix_refl _, written_replay_release hs env kept b.entries quietly _⟩
    | some l =>
      obtain ⟨s, hsuffix, hwritten⟩ := written_drainTaken (k := k) env (w.previousSink k) l b.entries quiet
      have calm := calm_drainTaken u k env (w.previousSink k) l b.entries
      refine ⟨s, hw ▸ hsuffix, ?_⟩
      rw [bind_effects, written_append, ← hwritten]
      congr 1
      refine written_replay_release hs env (by rw [World.closeChannel_slot, calm.slot, kept]) _ (fun v => ?_) _
      split
      · exact ⟨written_notice _ _, calm_notice v k _ _⟩
      · exact quietly v

end Trail

/-- What a forwarder writes to the sink it replaced: a record once, after the
entries that waited, unless it does not mirror; a stop writes only entries. -/
theorem Reachable.writes_once_besides_replays {env : Surroundings} {w : World} (h : Reachable env w)
    (hq : w.Quiet) (k : Nat) :
    (∀ r, (w.slot.sink = .buffering k ∨ w.slot.sink = .forwarding k) →
      (∃ rest, rest <:+ w.entries k ∧
        written k (Trail.dispatch env w r).effects = rest.map LogRecord.ofEntry ++ [r]) ∨
      (written k (Trail.dispatch env w r).effects = [] ∧ (w.fwd k).mirror = false)) ∧
    (∃ rest, rest <:+ w.entries k ∧ written k (Trail.stop env w k).effects = rest.map LogRecord.ofEntry) :=
  ⟨fun r hslot => Trail.writesOnce_dispatch h.coherent.sound hq hslot env r, Trail.written_stop h.coherent.sound hq env⟩

/-- A forwarder activated over a wire that logs nothing, mirroring what it
handles, writes as stated. -/
theorem activated_forwarder_writes_once :
    let env : Surroundings := ⟨Net.Machine.isolated, none⟩
    let w := (World.empty.apply env (.addForwarder (Config.defaults none))).apply env
      (.activate 0 (ScriptedWire.new none 0 []) none false true)
    Reachable env w ∧ w.Quiet ∧
    ((∀ r, (w.slot.sink = .buffering 0 ∨ w.slot.sink = .forwarding 0) →
      (∃ rest, rest <:+ w.entries 0 ∧
        written 0 (Trail.dispatch env w r).effects = rest.map LogRecord.ofEntry ++ [r]) ∨
      (written 0 (Trail.dispatch env w r).effects = [] ∧ (w.fwd 0).mirror = false)) ∧
    (∃ rest, rest <:+ w.entries 0 ∧ written 0 (Trail.stop env w 0).effects = rest.map LogRecord.ofEntry)) := by
  intro env w
  have h : Reachable env w := .next _ (.next _ .start trivial) ⟨Nat.zero_lt_one, rfl⟩
  have hq : w.Quiet := by
    intro i x hx
    have wired : w.wires = [.scripted (ScriptedWire.new none 0 [])] := by decide +kernel
    rw [World.wire, wired] at hx
    rcases i with _ | i
    · cases hx
      rfl
    · simp at hx
  exact ⟨h, hq, h.writes_once_besides_replays hq 0⟩

/-- A line of a task that is never forwarded at once goes into the backlog and,
the forwarder mirroring, is copied to the console; the stop then finds the wire
broken and writes the line to the console again. -/
theorem mirrored_line_written_twice :
    let env : Surroundings := ⟨Net.Machine.isolated, none⟩
    let w := (World.empty.addForwarder (Config.defaults none)).1
    let line : LogRecord := ⟨some "wifi", "I (5) wifi: connected\n"⟩
    written 0 (Trail.run env w [.activate 0 (ScriptedWire.new (some .closed) 0 []) none false true,
      .log line, .stop 0]).effects = [line, line] := by
  decide

end SyslogRelay.Relay
