import SyslogRelay.Proofs.Transitions

namespace SyslogRelay.Relay

namespace World

/-- From `w` to `v` the slot is kept, or forwarder `k` gave it back to `P`, which
it does only while it holds the slot, putting `P` in as a foreign sink. -/
def Yields (k : Nat) (P : Sink) (w v : World) : Prop :=
  v.slot = w.slot ∨ (w.slot.provenance = .forwarder k ∧ v.slot = ⟨P, .foreign⟩)

namespace Yields

variable {k : Nat} {P : Sink} {u v w : World}

theorem of_slot (h : v.slot = w.slot) : Yields k P w v := .inl h

theorem refl (k : Nat) (P : Sink) (w : World) : Yields k P w w := of_slot rfl

/-- A slot given back is foreign, so it is given back at most once. -/
theorem trans (h : Yields k P u v) (h' : Yields k P v w) : Yields k P u w := by
  rcases h with h | ⟨own, given⟩
  · rcases h' with h' | ⟨own', given'⟩
    · exact .inl (h'.trans h)
    · exact .inr ⟨h ▸ own', given'⟩
  · rcases h' with h' | ⟨own', -⟩
    · exact .inr ⟨own, h'.trans given⟩
    · rw [given] at own'
      cases own'

theorem of_calm (h : Calm w v) : Yields k P w v := of_slot h.slot

theorem release (w : World) (k : Nat) (P : Sink) : Yields k P w (((w.flush P).restoreIf k P).1.settle k) := by
  simp only [Yields, slot_settle, restoreIf_slot, flush_slot, Installed.restoreIf]
  split
  · exact .inr ⟨‹_›, rfl⟩
  · exact .inl rfl

end Yields

end World

namespace Trail

variable {k : Nat} {r : LogRecord}

theorem yields_disable (m : World) (k : Nat) (err : Net.LinkError) (P : Sink) (r : LogRecord) :
    World.Yields k P m (disable m k err P r).world := by
  have rest : ∀ t : Trail, t.world.slot = m.slot →
      World.Yields k P m ((notice t.world k P err).bind fun w => (fallBack w k P r).bind fun w =>
        idle (((w.flush P).restoreIf k P).1.settle k)).world := by
    intro t ht
    simp only [bind_world, idle_world]
    refine World.Yields.trans (.of_slot ?_) (World.Yields.release _ k P)
    rw [(calm_fallBack _ k P r).slot, (calm_notice _ k P err).slot, ht]
  simp only [disable, World.takeBacklog]
  split
  · exact rest _ (calm_replay _ k P _).slot
  · exact rest (idle _) rfl

theorem yields_teardown (m : World) (k : Nat) (err : Net.LinkError) (unsent : Option Entry) (r : LogRecord) :
    World.Yields k (m.previousSink k) m (teardown m k err unsent r).world := by
  have last : ∀ v : World, v.slot = m.slot → World.Yields k (m.previousSink k) m
      (if (v.fwd k).state ≠ .active then fallBack v k (m.previousSink k) r
        else disable v k err (m.previousSink k) r).world := by
    intro v hv
    split
    · exact .of_slot ((calm_fallBack _ k _ r).slot.trans hv)
    · exact (World.Yields.of_slot hv).trans (yields_disable _ k err _ r)
  unfold teardown
  cases unsent with
  | none =>
    rw [bind_world, idle_world]
    exact last m rfl
  | some e =>
    rw [bind_world]
    exact last _ (calm_fallBack m k _ _).slot

theorem yields_giveUp (v : World) (k : Nat) (link : Link) (err : Net.LinkError) (unsent : Option Entry)
    (r : LogRecord) : World.Yields k (v.previousSink k) v (giveUp v k link err unsent r).world := by
  have kept := yields_teardown ((v.updateFwd k fun f => { f with link := none }).closeChannel link.channel) k err
    unsent r
  simp only [World.closeChannel_previousSink, World.previousSink_updateFwd, implies_true] at kept
  exact (World.Yields.of_slot (by simp)).trans kept

theorem yields_sendLast (env : Surroundings) (w : World) (k : Nat) (r : LogRecord) (link : Link) :
    World.Yields k (w.previousSink k) w (sendLast env w k r link).world := by
  have calm := calm_transmit w k env link r.task (Text.cutBytes r.text maxLineBytes)
  unfold sendLast
  generalize transmit env w k link r.task (Text.cutBytes r.text maxLineBytes) = out at calm
  rcases out with ⟨t, link', _ | ⟨⟩⟩ <;> dsimp only at calm ⊢ <;> rw [bind_world]
  · exact (World.Yields.of_calm calm).trans (calm.previousSink k ▸ yields_giveUp _ k link' _ none r)
  · exact .of_slot ((calm_echo _ k r).slot.trans calm.slot)

theorem yields_drainThenSend (env : Surroundings) (r : LogRecord) (pending : Nat) (w : World) (link : Link) :
    World.Yields k (w.previousSink k) w (drainThenSend env w k r link pending).world := by
  fun_induction drainThenSend env w k r link pending with
  | case1 w link | case4 w link _ _ => exact yields_sendLast env w k r link
  | case2 w link pending b entry hd v u t link' sent ih =>
    have c := (World.calm_drainOne_of_map w k hd).trans (sent ▸ calm_transmit u k env link entry.task entry.text)
    have next := ih t.world
    simp only [World.previousSink_updateFwd, implies_true, c.previousSink k] at next
    rw [bind_world]
    exact (World.Yields.of_calm c).trans ((World.Yields.of_slot rfl).trans next)
  | case3 w link pending b entry hd v u t link' err failed =>
    have c := (World.calm_drainOne_of_map w k hd).trans (failed ▸ calm_transmit u k env link entry.task entry.text)
    rw [bind_world]
    exact (World.Yields.of_calm c).trans (c.previousSink k ▸ yields_giveUp _ k link' _ _ r)

theorem yields_forward (env : Surroundings) (w : World) (k : Nat) (r : LogRecord) :
    World.Yields k (w.previousSink k) w (forward env w k r).world := by
  unfold forward
  split
  · exact .of_calm (calm_defer w k r)
  · rw [within_world]
    refine World.Yields.trans ?_ (.of_slot rfl)
    split
    · exact .of_slot (calm_fallBack _ k _ r).slot
    · exact yields_drainThenSend env r _ { w with inside := true } _

/-- A record handed to the slot leaves it as it was, or the forwarder whose sink
holds it gives it back after a failed send. -/
theorem yields_dispatch (env : Surroundings) (w : World) (r : LogRecord) :
    (dispatch env w r).world.slot = w.slot ∨
      ∃ k, w.slot.sink = .forwarding k ∧ World.Yields k (w.previousSink k) w (dispatch env w r).world := by
  unfold dispatch
  split
  · exact .inl (calm_defer w _ r).slot
  · rename_i k hk
    exact .inr ⟨k, hk, yields_forward env w k r⟩
  · exact .inl (World.calm_keep w _ r).slot

/-- Stopping a forwarder gives the slot back to the sink it fell back to when
the forwarder is installed, and leaves the slot alone otherwise. -/
theorem slot_stop (env : Surroundings) (w : World) (k : Nat) :
    (stop env w k).world.slot =
      if (w.fwd k).state = .uninstalled then w.slot else (w.slot.restoreIf k (w.previousSink k)).1 := by
  by_cases unused : (w.fwd k).state = .uninstalled
  · rw [stop_of_uninstalled unused, if_pos unused]
  obtain ⟨y, e, hy, settled⟩ := @stop_ends_settled env w k unused
  rw [settled, if_neg unused]
  dsimp only
  rw [(calm_announce _ env e).slot, World.slot_settle, World.restoreIf_slot, World.flush_slot, hy]

end Trail

namespace World

variable {env : Surroundings} {w : World}

/-- A sink that only keeps what it gets is no forwarder's sink. -/
theorem Sink.not_handler_of_isLocal {s : Sink} (h : s.isLocal = true) (j : Nat) :
    s ≠ .buffering j ∧ s ≠ .forwarding j := by
  constructor <;> rintro rfl <;> cases h

theorem Plain.remembered_local (hp : w.Plain) {k : Nat} {s : Sink} (h : (w.fwd k).previous = some s) :
    s.isLocal = true := by
  simpa [previousSink, h] using hp.previous k

theorem Plain.foreign_local (hp : w.Plain) (h : w.slot.provenance = .foreign) : w.slot.sink.isLocal = true := by
  rcases hp.slot with ⟨hl, -⟩ | ⟨j, -, hj⟩
  · exact hl
  · rw [h] at hj
    cases hj

/-- Stopping forwarder `k` gives the slot back exactly when `k`'s sink holds it. -/
theorem Sound.slot_stopForwarder (hs : w.Sound) (k : Nat) :
    (w.stopForwarder env k).slot =
      if w.slot.provenance = .forwarder k then ⟨w.previousSink k, .foreign⟩ else w.slot := by
  rw [stopForwarder_eq hs.plain, Trail.slot_stop]
  split
  · rename_i unused
    have foreign : w.slot.provenance ≠ .forwarder k := fun h => by
      rcases hs.owner k h with ⟨st, -⟩ | ⟨st, -⟩ <;> simp [unused] at st
    simp [foreign]
  · simp only [Installed.restoreIf]
    split <;> rfl

/-- Handing a record to the slot keeps the slot, or the forwarder that held it
gives it back after a failed send. -/
theorem Sound.slot_log (hs : w.Sound) (r : LogRecord) :
    (w.log env r).slot = w.slot ∨
      ∃ k, w.slot.provenance = .forwarder k ∧ (w.log env r).slot = ⟨w.previousSink k, .foreign⟩ := by
  rw [log_eq hs.plain]
  rcases Trail.yields_dispatch env w r with kept | ⟨k, -, kept | returned⟩
  · exact .inl kept
  · exact .inl kept
  · exact .inr ⟨k, returned⟩

end World

/-- **No forwarder chains to itself.** The sink a forwarder falls back to is never
a forwarder's sink, and the slot is given back only by its holder. -/
theorem Reachable.no_self_chaining {env : Surroundings} {w : World} (h : Reachable env w) :
    (∀ k s, (w.fwd k).previous = some s → ∀ j, s ≠ .buffering j ∧ s ≠ .forwarding j) ∧
    (w.slot.provenance = .foreign → ∀ j, w.slot.sink ≠ .buffering j ∧ w.slot.sink ≠ .forwarding j) ∧
    (∀ k, (w.stopForwarder env k).slot =
      if w.slot.provenance = .forwarder k then ⟨w.previousSink k, .foreign⟩ else w.slot) ∧
    (∀ r, (w.log env r).slot = w.slot ∨
      ∃ k, w.slot.provenance = .forwarder k ∧ (w.log env r).slot = ⟨w.previousSink k, .foreign⟩) ∧
    (∀ k n r, World.write (n + 1) env w (w.previousSink k) r = w.keep (w.previousSink k) r) := by
  have hs := h.coherent.sound
  refine ⟨fun k s hk => World.Sink.not_handler_of_isLocal (hs.plain.remembered_local hk), fun hf =>
    World.Sink.not_handler_of_isLocal (hs.plain.foreign_local hf), hs.slot_stopForwarder, hs.slot_log,
    fun k n r => World.write_local n (hs.plain.previous k)⟩

/-- Two forwarders that buffer early, the second installed over the first: the
second remembers nothing, and every part of the law holds. -/
theorem stacked_forwarders_unchained :
    let env : Surroundings := ⟨Net.Machine.isolated, none⟩
    let w := (((World.empty.apply env (.addForwarder (Config.defaults none))).apply env
      (.addForwarder (Config.defaults none))).apply env (.earlyBuffering 0 16)).apply env (.earlyBuffering 1 16)
    Reachable env w ∧
    ((∀ k s, (w.fwd k).previous = some s → ∀ j, s ≠ .buffering j ∧ s ≠ .forwarding j) ∧
    (w.slot.provenance = .foreign → ∀ j, w.slot.sink ≠ .buffering j ∧ w.slot.sink ≠ .forwarding j) ∧
    (∀ k, (w.stopForwarder env k).slot =
      if w.slot.provenance = .forwarder k then ⟨w.previousSink k, .foreign⟩ else w.slot) ∧
    (∀ r, (w.log env r).slot = w.slot ∨
      ∃ k, w.slot.provenance = .forwarder k ∧ (w.log env r).slot = ⟨w.previousSink k, .foreign⟩) ∧
    (∀ k n r, World.write (n + 1) env w (w.previousSink k) r = w.keep (w.previousSink k) r)) := by
  intro env w
  have h : Reachable env w :=
    .next _ (.next _ (.next _ (.next _ .start trivial) trivial) (by unfold Op.Allowed; decide))
      (by unfold Op.Allowed; decide +kernel)
  exact ⟨h, h.no_self_chaining⟩

end SyslogRelay.Relay
