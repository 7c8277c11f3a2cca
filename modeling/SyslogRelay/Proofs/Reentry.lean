import SyslogRelay.Proofs.DrainSnapshot

namespace SyslogRelay.Config

/-- A task conflicts exactly when it is named, as it is written, in the list;
a record without a task never does. -/
theorem isConflicting_iff (c : Config) (task : Option String) :
    c.isConflicting task = true ↔ ∃ t, task = some t ∧ t ∈ c.conflictingTasks := by
  cases task with
  | none => simp [isConflicting]
  | some t => simp [isConflicting]

end SyslogRelay.Config

namespace SyslogRelay.Relay

open SyslogRelay.Text

/-- `u` is `w` after forwarder `k` deferred record `r`: no wire, slot, flag or
link moved, and `r` joined the backlog or, refused or without a backlog, was
written to the sink `k` replaced. -/
structure Deferred (k : Nat) (r : LogRecord) (w u : World) : Prop where
  wires : u.wires = w.wires
  slot : u.slot = w.slot
  inside : u.inside = w.inside
  link : (u.fwd k).link = (w.fwd k).link
  kept : (∃ b, (w.fwd k).backlog = some b ∧ (b.append r.task (cutBytes r.text maxLineBytes)).2 ≠ .disabled ∧
      (u.fwd k).backlog = some (b.append r.task (cutBytes r.text maxLineBytes)).1) ∨
    ((u.fwd k).backlog = (w.fwd k).backlog ∧
      u.received (w.previousSink k) = (w.received (w.previousSink k)).map (· ++ [r]))

namespace Trail

variable {w : World} {k : Nat}

/-- A record the backlog refuses, or one with no backlog to go to, is written
where the forwarder falls back. -/
theorem defer_refused {r : LogRecord}
    (h : ∀ b, (w.fwd k).backlog = some b → (b.append r.task (cutBytes r.text maxLineBytes)).2 = .disabled) :
    (defer w k r).world = (fallBack w k (w.previousSink k) r).world := by
  unfold defer
  dsimp only
  split
  · rfl
  · rename_i b hb
    rcases happ : b.append r.task (cutBytes r.text maxLineBytes) with ⟨b', out⟩
    have refused := h b hb
    rw [happ] at refused
    subst refused
    rfl

/-- What deferring does. -/
theorem deferred_defer (hP : (w.previousSink k).isLocal = true) (r : LogRecord) :
    Deferred k r w (defer w k r).world := by
  have calm := calm_defer w k r
  refine ⟨wires_defer w k r, calm.slot, calm.inside, calm.link k, ?_⟩
  by_cases hs : ∃ b, (w.fwd k).backlog = some b ∧ (b.append r.task (cutBytes r.text maxLineBytes)).2 ≠ .disabled
  · obtain ⟨b, hb, stored⟩ := hs
    exact .inl ⟨b, hb, stored, backlog_defer hb stored⟩
  · have refused : ∀ b, (w.fwd k).backlog = some b → (b.append r.task (cutBytes r.text maxLineBytes)).2 = .disabled :=
      fun b hb => Classical.byContradiction fun hd => hs ⟨b, hb, hd⟩
    rw [defer_refused refused]
    exact .inr ⟨backlog_fallBack w k k _ r, received_fallBack w k _ hP r⟩

/-- Forwarder `k`'s sink defers what reaches it while an operation is under way. -/
theorem dispatchInside_defers (hslot : w.slot.sink = .forwarding k ∨ w.slot.sink = .buffering k) (r : LogRecord) :
    (dispatchInside w r).world = (defer w k r).world := by
  rcases hslot with h | h <;> simp only [dispatchInside, h, bind_world, emit_world]

/-- While an operation is under way, forwarder `k`'s sink defers what reaches it. -/
theorem dispatch_defers_inside (hi : w.inside = true) (hslot : w.slot.sink = .forwarding k ∨ w.slot.sink = .buffering k)
    (env : Surroundings) (r : LogRecord) : (dispatch env w r).world = (defer w k r).world := by
  rcases hslot with h | h
  · simp only [dispatch, h, bind_world, emit_world, forward, hi, Bool.true_or, if_true]
  · simp only [dispatch, h, bind_world, emit_world]

end Trail

namespace World

/-- Records handed to the slot one after another. -/
def dispatchAll (m : Nat) (env : Surroundings) (w : World) (rs : List LogRecord) : World :=
  rs.foldl (fun u r => dispatch m env u r) w

@[simp] theorem dispatchAll_cons (m : Nat) (env : Surroundings) (w : World) (r : LogRecord) (rs : List LogRecord) :
    dispatchAll m env w (r :: rs) = dispatchAll m env (dispatch m env w r) rs := rfl

/-- However many records reach forwarder `k`'s sink while one of its operations
is under way, each is deferred in turn: the backlog takes them in one after
another, and no wire, link or slot moves. -/
theorem dispatchAll_deferred (env : Surroundings) {w : World} (hp : w.Plain) (hi : w.inside = true) {k : Nat}
    (hslot : w.slot.sink = .forwarding k ∨ w.slot.sink = .buffering k) {m : Nat} (hm : 6 ≤ m)
    (rs : List LogRecord) :
    (dispatchAll m env w rs).wires = w.wires ∧ (dispatchAll m env w rs).slot = w.slot ∧
      (dispatchAll m env w rs).inside = true ∧ ((dispatchAll m env w rs).fwd k).link = (w.fwd k).link ∧
      ((dispatchAll m env w rs).fwd k).backlog =
        (w.fwd k).backlog.map fun b => rs.foldl (fun b r => b.takeLogged (some r)) b := by
  -- the induction follows the records; each one is deferred by the step lemma
  induction rs generalizing w with
  | nil => exact ⟨rfl, rfl, hi, rfl, by simp [dispatchAll]⟩
  | cons r rs ih =>
    have step : dispatchAll m env w (r :: rs) = dispatchAll m env (Trail.defer w k r).world rs := by
      rw [dispatchAll_cons, dispatch_inside_eq hp hi hm, Trail.dispatchInside_defers hslot r]
    have deferred := Trail.deferred_defer (hp.previous k) r
    have calm := Trail.calm_defer w k r
    obtain ⟨wires, slot, inside, link, backlog⟩ :=
      ih (w := (Trail.defer w k r).world) (calm.plain hp) (calm.inside.trans hi) (by rw [calm.slot]; exact hslot)
    rw [step]
    refine ⟨wires.trans deferred.wires, slot.trans deferred.slot, inside, link.trans deferred.link, ?_⟩
    rw [backlog]
    rcases hb : (w.fwd k).backlog with _ | b
    · rcases deferred.kept with ⟨b, hb', -⟩ | ⟨same, -⟩
      · rw [hb] at hb'
        cases hb'
      · rw [same, hb]
        rfl
    · rw [Trail.backlog_defer_of_some hb r]
      rfl

end World

/-- **Records logged from inside a forwarder are never sent from inside.** The
dispatch ends, and every record arriving during an operation is deferred. -/
theorem reentrant_records_deferred {env : Surroundings} {w : World} (hp : w.Plain) {k : Nat}
    (hslot : w.slot.sink = .forwarding k ∨ w.slot.sink = .buffering k) (r : LogRecord) :
    (∀ m, 2 * w.load + 12 ≤ m → World.dispatch m env w r = w.log env r) ∧
    (∀ op : Op, (w.apply env op).inside = w.inside) ∧
    ((w.fwd k).config.isConflicting r.task = true ↔ ∃ t, r.task = some t ∧ t ∈ (w.fwd k).config.conflictingTasks) ∧
    ((w.inside = true ∨ (w.fwd k).config.isConflicting r.task = true) → Deferred k r w (w.log env r)) ∧
    (w.inside = true → ∀ m, 6 ≤ m → ∀ rs : List LogRecord,
      (World.dispatchAll m env w rs).wires = w.wires ∧ ((World.dispatchAll m env w rs).fwd k).link = (w.fwd k).link ∧
      ((World.dispatchAll m env w rs).fwd k).backlog =
        (w.fwd k).backlog.map fun b => rs.foldl (fun b r => b.takeLogged (some r)) b) := by
  refine ⟨fun m hm => ?_, fun op => ?_, Config.isConflicting_iff _ _, fun hd => ?_, fun hi m hm rs => ?_⟩
  · rw [World.dispatch_eq hp hm, World.log_eq hp]
  · rw [← World.apply_world hp op]
    exact World.inside_apply op
  · have deferred : (Trail.dispatch env w r).world = (Trail.defer w k r).world := by
      cases hi : w.inside with
      | true => exact Trail.dispatch_defers_inside hi hslot env r
      | false =>
        rcases hslot with h | h
        · exact Trail.dispatch_defers hi (.inr ⟨h, hd.resolve_left (by simp [hi])⟩) env
        · exact Trail.dispatch_defers hi (.inl h) env
    rw [World.log_eq hp, deferred]
    exact Trail.deferred_defer (hp.previous k) r
  · obtain ⟨wires, -, -, link, backlog⟩ := World.dispatchAll_deferred env hp hi hslot hm rs
    exact ⟨wires, link, backlog⟩

/-- An active forwarder takes a line of its conflicting task `wifi`, and, while
one of its operations is under way, that line and another. -/
theorem wifi_line_deferred_while_active :
    let env : Surroundings := ⟨Net.Machine.isolated, none⟩
    let w := (World.empty.apply env (.addForwarder (Config.defaults none))).apply env
      (.activate 0 (ScriptedWire.new none 0 []) none true false)
    let r : LogRecord := ⟨some "wifi", "connected\n"⟩
    let u : World := { w with inside := true }
    w.Plain ∧ w.slot.sink = .forwarding 0 ∧ (w.fwd 0).config.isConflicting r.task = true ∧
      Deferred 0 r w (w.log env r) ∧ (World.dispatchAll 6 env u [r, ⟨some "main", "a\n"⟩]).wires = u.wires := by
  intro env w r u
  have hw : Reachable env w := .next _ (.next _ .start trivial) ⟨Nat.zero_lt_one, rfl⟩
  have hp := hw.coherent.sound.plain
  have hslot : w.slot.sink = .forwarding 0 := by decide +kernel
  have hc : (w.fwd 0).config.isConflicting r.task = true := by decide +kernel
  have hpu : u.Plain := ⟨hp.previous, hp.slot⟩
  exact ⟨hp, hslot, hc, (reentrant_records_deferred hp (.inl hslot) r).2.2.2.1 (.inr hc),
    ((reentrant_records_deferred hpu (.inl hslot) r).2.2.2.2 rfl 6 (Nat.le_refl 6) _).1⟩

end SyslogRelay.Relay
