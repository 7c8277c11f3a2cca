import SyslogRelay.Proofs.Coalescing

namespace SyslogRelay.Backlog

/-- A backlog that refuses a text is left as it was. -/
theorem append_disabled_self {b : Backlog} {task : Option String} {s : String}
    (h : (b.append task s).2 = .disabled) : (b.append task s).1 = b := by
  have refused : b.capacity = 0 ∨ s.isEmpty = true := by
    rcases append_disabled h with hc | he
    · exact .inl hc
    · exact .inr (by simp [he])
  unfold append
  rw [if_pos refused]

end SyslogRelay.Backlog

namespace SyslogRelay.Relay

namespace World

end World

namespace Trail

variable {env : Surroundings} {w : World} {k : Nat}

/-- A deferred record goes into the backlog, or leaves it as it was when the
backlog refuses it. -/
theorem backlog_defer_of_some {b : Backlog} (hb : (w.fwd k).backlog = some b) (r : LogRecord) :
    ((defer w k r).world.fwd k).backlog = some (b.append r.task (Text.cutBytes r.text maxLineBytes)).1 := by
  by_cases hs : (b.append r.task (Text.cutBytes r.text maxLineBytes)).2 = .disabled
  · rw [Backlog.append_disabled_self hs, ← hb]
    rcases happ : b.append r.task (Text.cutBytes r.text maxLineBytes) with ⟨b', out⟩
    rw [happ] at hs
    cases hs
    simp [defer, hb, happ, backlog_fallBack]
  · exact backlog_defer hb hs

/-- However stopping goes, it ends by giving the slot back, settling forwarder
`k` and announcing the stop, from a world whose slot is still the one it found. -/
theorem stop_ends_settled (unused : (w.fwd k).state ≠ .uninstalled) :
    ∃ (y : World) (e : Diagnostic.Event), y.slot = w.slot ∧ (stop env w k).world =
      { (announce env (((y.flush (w.previousSink k)).restoreIf k (w.previousSink k)).1.settle k) e).world with
        inside := w.inside } := by
  simp only [stop, World.fwd_inside, unused, ↓reduceIte, World.takeLink, World.takeBacklog, World.link_updateFwd,
    World.backlog_updateFwd, World.previousSink_updateFwd, World.previousSink_inside, implies_true, bind_world,
    within_world]
  generalize hu : (((({ w with inside := true } : World).updateFwd k fun f => { f with state := .restoring }).updateFwd k
    fun f => { f with link := none }).updateFwd k fun f => { f with backlog := none }) = u
  have taken : u.slot = w.slot := hu ▸ rfl
  cases hb : (w.fwd k).backlog with
  | none =>
    cases hl : (w.fwd k).link with
    | none =>
      dsimp only [idle_world]
      exact ⟨_, _, (calm_replay u k _ []).slot.trans taken, rfl⟩
    | some l =>
      dsimp only [idle_world]
      exact ⟨_, _, (calm_replay _ k _ []).slot.trans (by rw [World.closeChannel_slot, taken]), rfl⟩
  | some b =>
    cases hl : (w.fwd k).link with
    | none =>
      dsimp only [idle_world]
      exact ⟨_, _, (calm_replay u k _ b.entries).slot.trans taken, rfl⟩
    | some l =>
      dsimp only [idle_world]
      have c1 := calm_drainTaken u k env (w.previousSink k) l b.entries
      generalize drainTaken env u k (w.previousSink k) l b.entries = out at c1
      rcases out with ⟨t, rest, _ | e⟩ <;> dsimp only [idle_world] at c1 ⊢
      · exact ⟨_, _, (calm_replay _ k _ rest).slot.trans (by rw [World.closeChannel_slot, c1.slot, taken]), rfl⟩
      · exact ⟨_, _, ((calm_replay _ k _ rest).trans (calm_notice _ k _ e)).slot.trans
          (by rw [World.closeChannel_slot, c1.slot, taken]), rfl⟩

theorem stop_of_uninstalled (unused : (w.fwd k).state = .uninstalled) : (stop env w k).world = w := by
  simp [stop, unused]

end Trail

namespace World

variable {env : Surroundings} {w : World} {k : Nat}

end World

end SyslogRelay.Relay
