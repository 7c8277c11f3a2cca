import SyslogRelay.Proofs.Frame

/-!
With fuel to spare, the operations of a plain world are those of its trail.
-/

namespace SyslogRelay.Net

/-- Resolving a host raises at most four diagnostic events. -/
theorem length_resolve_le (m : Machine) (host : String) (r : Resolver) : (r.resolve m host).2.length ≤ 4 := by
  have system : (resolveSystem m host).2.length ≤ 1 := by
    unfold resolveSystem
    split
    · simp
    · dsimp only
      split <;> simp
  have mdns : (resolveLocalLink m host).2.length ≤ 2 := by
    unfold resolveLocalLink
    dsimp only
    split
    · simp
    · split <;> simp
  cases r with
  | system => simp only [Resolver.resolve]; omega
  | withLocalLink t =>
    simp only [Resolver.resolve]
    generalize hs : resolveSystem m host = sys at system
    rcases sys with ⟨_ | ip, events⟩ <;> dsimp only at system ⊢
    · simp only [List.length_append, List.length_cons]
      omega
    · omega
end SyslogRelay.Net

namespace SyslogRelay.Relay

namespace World

/-- Records waiting in all backlogs. -/
def load (w : World) : Nat := w.fwds.foldr (fun f total => f.buffered + total) 0

theorem buffered_le_load (w : World) (k : Nat) : (w.fwd k).buffered ≤ w.load := by
  unfold fwd load
  induction w.fwds generalizing k with
  | nil => simp [Forwarder.buffered, show (default : Forwarder).backlog = none from rfl]
  | cons f fs ih =>
    cases k with
    | zero => simp
    | succ k =>
      have := ih k
      simp only [List.getD_cons_succ, List.foldr_cons]
      omega

theorem budget_eq (w : World) :
    w.budget = 4 * (w.reactives.length + 4) * (w.load + w.fwds.length + 64) := rfl

variable {env : Surroundings} {w : World} {k : Nat} {s : Sink} {r : LogRecord} {m : Nat}

theorem write_local (n : Nat) (hs : s.isLocal) : write (n + 1) env w s r = w.keep s r := by
  cases s <;> simp_all [Sink.isLocal, write, keep]

theorem fallBack_eq (hs : s.isLocal) (hm : 2 ≤ m) :
    fallBack m env w k s r = (Trail.fallBack w k s r).world := by
  obtain ⟨n, rfl⟩ : ∃ n, m = n + 2 := ⟨m - 2, by omega⟩
  simp [fallBack, Trail.fallBack, write_local n hs]

theorem replay_eq (hs : s.isLocal) (es : List Entry) (hm : 3 ≤ m) :
    replay m env w k s es = (Trail.replay w k s es).world := by
  obtain ⟨n, rfl⟩ : ∃ n, m = n + 1 := ⟨m - 1, by omega⟩
  rw [replay]
  induction es generalizing w with
  | nil => rfl
  | cons e es ih => rw [List.foldl_cons, fallBack_eq hs (by omega), ih, Trail.replay, Trail.bind_world]

theorem echo_eq (hs : (w.previousSink k).isLocal) (hm : 2 ≤ m) :
    echo m env w k r = (Trail.echo w k r).world := by
  obtain ⟨n, rfl⟩ : ∃ n, m = n + 2 := ⟨m - 2, by omega⟩
  simp only [echo, Trail.echo]
  split
  · exact write_local n hs
  · rfl

theorem defer_eq (hs : (w.previousSink k).isLocal) (hm : 3 ≤ m) :
    defer m env w k r = (Trail.defer w k r).world := by
  obtain ⟨n, rfl⟩ : ∃ n, m = n + 1 := ⟨m - 1, by omega⟩
  cases hb : (w.fwd k).backlog with
  | none => simpa only [defer, Trail.defer, hb] using fallBack_eq hs (by omega)
  | some b =>
    rcases ha : b.append r.task (Text.cutBytes r.text maxLineBytes) with ⟨b', out⟩
    have updated : (w.updateFwd k fun f => { f with backlog := some b' }).previousSink k =
        w.previousSink k :=
      previousSink_updateFwd w k k _ fun _ => rfl
    cases out with
    | disabled => simpa only [defer, Trail.defer, hb, ha] using fallBack_eq hs (by omega)
    | evicted =>
      simp only [defer, Trail.defer, hb, ha, ↓reduceIte]
      exact echo_eq (by simpa only [previousSink_count, updated] using hs) (by omega)
    | appended =>
      simp only [defer, Trail.defer, hb, ha, reduceCtorEq, ↓reduceIte]
      exact echo_eq (by simpa only [previousSink_count, updated] using hs) (by omega)
    | coalesced =>
      simp only [defer, Trail.defer, hb, ha, reduceCtorEq, ↓reduceIte]
      exact echo_eq (by simpa only [previousSink_count, updated] using hs) (by omega)

/-- A record logged during a forwarder operation is deferred by a forwarder's
sink and kept by a local one. -/
theorem dispatch_inside_eq (hp : w.Plain) (hi : w.inside = true) (hm : 6 ≤ m) :
    dispatch m env w r = (Trail.dispatchInside w r).world := by
  obtain ⟨n, rfl⟩ : ∃ n, m = n + 6 := ⟨m - 6, by omega⟩
  rcases hp.slot with ⟨hlocal, _⟩ | ⟨j, hsink | hsink, _⟩
  · rw [dispatch, write_local _ hlocal]
    unfold Trail.dispatchInside
    split <;> simp_all [Sink.isLocal, Trail.keep]
  · simp only [dispatch, write, Trail.dispatchInside, hsink, Trail.bind_world, Trail.emit_world]
    exact defer_eq (hp.previous j) (by omega)
  · simp only [dispatch, write, forward, hi, Bool.true_or, ↓reduceIte, Trail.dispatchInside, hsink,
      Trail.bind_world, Trail.emit_world]
    exact defer_eq (hp.previous j) (by omega)

/-- Records logged one after another during a forwarder operation are each
deferred or kept at once. -/
theorem dispatchAll_inside_eq (hp : w.Plain) (hi : w.inside = true) (hm : 6 ≤ m) (rs : List LogRecord) :
    rs.foldl (fun w r => dispatch m env w r) w = (Trail.dispatchAllInside w rs).world := by
  induction rs generalizing w with
  | nil => rfl
  | cons r rs ih =>
    have calm := Trail.calm_dispatchInside w r
    rw [List.foldl_cons, dispatch_inside_eq hp hi hm, ih (calm.plain hp) (calm.inside.trans hi),
      Trail.dispatchAllInside, Trail.bind_world]

theorem sendScripted_eq (hp : w.Plain) (hi : w.inside = true) (hm : 7 ≤ m) (i : Nat) (p : String) :
    sendScripted m env w i p = ((Trail.sendScripted w i p).1.world, (Trail.sendScripted w i p).2) := by
  obtain ⟨n, rfl⟩ : ∃ n, m = n + 7 := ⟨m - 7, by omega⟩
  rcases hw : w.wire i with _ | (s | ⟨port, got⟩)
  · simp [sendScripted, Trail.sendScripted, hw]
  · have attempted : (w.updateWire i fun _ => .scripted { s with attempts := s.attempts + 1 }).Plain := by
      apply (calm_updateWire w i _).plain hp
      intro x hx
      rw [hw] at hx
      cases hx
      exact ⟨rfl, rfl⟩
    simp only [sendScripted, Trail.sendScripted, Trail.logAttempt, hw]
    rw [dispatchAll_inside_eq attempted (by simpa [updateWire] using hi) (by omega)]
  · simp [sendScripted, Trail.sendScripted, hw]

theorem transmit_eq (hp : w.Plain) (hi : w.inside = true) (hm : 8 ≤ m) (link : Link)
    (task : Option String) (text : String) :
    transmit m env w k link task text =
      ((Trail.transmit env w k link task text).1.world, (Trail.transmit env w k link task text).2) := by
  obtain ⟨n, rfl⟩ : ∃ n, m = n + 8 := ⟨m - 8, by omega⟩
  rcases hc : link.channel with i | l
  · simp only [transmit, Trail.transmit, hc]
    rw [sendScripted_eq hp hi (by omega)]
    rcases Trail.sendScripted w i (link.encoder.encode text task) with ⟨t, e | ⟨⟩⟩ <;> rfl
  · simp only [transmit, Trail.transmit, hc]
    rcases l.send env.machine.network with ⟨l', e | ⟨⟩⟩ <;> rfl

/-- Tearing down without an unsent entry: the backlog, a notice and the record
are written locally and the slot is given back. -/
theorem teardown_none_eq (hs : (w.previousSink k).isLocal) (hm : 4 ≤ m)
    (err : Net.LinkError) : teardown m env w k err none r = (Trail.teardown w k err none r).world := by
  obtain ⟨n, rfl⟩ : ∃ n, m = n + 1 := ⟨m - 1, by omega⟩
  by_cases ha : (w.fwd k).state = .active
  · have hb : (((w.updateFwd k fun f => { f with state := .restoring }).count k
        fun s => { s with failures := s.failures + 1 }).fwd k).backlog = (w.fwd k).backlog := by
      rw [Trail.backlog_count]
      exact fwd_updateFwd_view w k k _ Forwarder.backlog fun _ => rfl
    cases hbk : (w.fwd k).backlog with
    | none =>
      simp only [teardown, Trail.teardown, Trail.disable, ha, ne_eq, not_true_eq_false, ↓reduceIte,
        takeBacklog, hb, hbk, Trail.idle, Trail.bind_world, Trail.notice_world]
      rw [fallBack_eq hs (by omega), fallBack_eq hs (by omega)]
    | some b =>
      simp only [teardown, Trail.teardown, Trail.disable, ha, ne_eq, not_true_eq_false, ↓reduceIte,
        takeBacklog, hb, hbk, Trail.idle, Trail.bind_world, Trail.notice_world]
      rw [replay_eq hs _ (by omega), fallBack_eq hs (by omega), fallBack_eq hs (by omega)]
  · simp only [teardown, Trail.teardown, ha, ne_eq, not_false_eq_true, ↓reduceIte, Trail.idle,
      Trail.bind_world]
    exact fallBack_eq hs (by omega)

theorem teardown_eq (hs : (w.previousSink k).isLocal) (hm : 4 ≤ m)
    (err : Net.LinkError) (unsent : Option Entry) :
    teardown m env w k err unsent r = (Trail.teardown w k err unsent r).world := by
  cases unsent with
  | none => exact teardown_none_eq hs hm err
  | some e =>
    obtain ⟨n, rfl⟩ : ∃ n, m = n + 1 := ⟨m - 1, by omega⟩
    have calm := Trail.calm_fallBack w k (w.previousSink k) (LogRecord.ofEntry e)
    have rest := @teardown_none_eq env _ k r (n + 1) (calm.previousSink k ▸ hs) hm err
    simp only [teardown, Trail.teardown, calm.previousSink, Trail.idle, Trail.bind_world] at rest
    simp only [teardown, Trail.teardown, Trail.bind_world]
    rw [fallBack_eq hs (by omega)]
    exact rest

theorem giveUp_eq (hs : (w.previousSink k).isLocal) (hm : 4 ≤ m) (link : Link)
    (err : Net.LinkError) (unsent : Option Entry) :
    teardown m env ((w.updateFwd k fun f => { f with link := none }).closeChannel link.channel) k err
      unsent r = (Trail.giveUp w k link err unsent r).world :=
  teardown_eq (by simpa [closeChannel_previousSink] using hs) hm err unsent

theorem sendLast_eq (hp : w.Plain) (hi : w.inside = true) (hm : 9 ≤ m)
    (link : Link) : drainThenSend m env w k r link 0 = (Trail.sendLast env w k r link).world := by
  obtain ⟨n, rfl⟩ : ∃ n, m = n + 1 := ⟨m - 1, by omega⟩
  have calm := Trail.calm_transmit w k env link r.task (Text.cutBytes r.text maxLineBytes)
  simp only [drainThenSend, Trail.sendLast]
  rw [transmit_eq hp hi (by omega)]
  generalize Trail.transmit env w k link r.task (Text.cutBytes r.text maxLineBytes) = out at calm
  rcases out with ⟨t, link', _ | ⟨⟩⟩
  · exact giveUp_eq ((calm.previousSink k).symm ▸ hp.previous k) (by omega) link' _ none
  · exact echo_eq (by simpa [calm.previousSink k] using hp.previous k) (by omega)

/-- Draining the backlog before the record: each entry sent takes one unit of
fuel, whatever the sends log meanwhile. -/
theorem drainThenSend_eq (pending : Nat) (hp : w.Plain) (hi : w.inside = true) (link : Link)
    (hm : pending + 9 ≤ m) :
    drainThenSend m env w k r link pending = (Trail.drainThenSend env w k r link pending).world := by
  induction pending generalizing w m link with
  | zero => exact sendLast_eq hp hi (by omega) link
  | succ pending ih =>
    obtain ⟨n, rfl⟩ : ∃ n, m = n + 1 := ⟨m - 1, by omega⟩
    rcases hd : (w.fwd k).backlog.map Backlog.drainOne with _ | ⟨b, _ | entry⟩
    · simp only [drainThenSend, Trail.drainThenSend, hd]
      exact sendLast_eq hp hi (by omega) link
    · simp only [drainThenSend, Trail.drainThenSend, hd]
      exact sendLast_eq hp hi (by omega) link
    · obtain ⟨b0, hb0, hdrain⟩ : ∃ b0, (w.fwd k).backlog = some b0 ∧ b0.drainOne = (b, some entry) := by
        simpa [Option.map_eq_some_iff] using hd
      have calmed := calm_drainOne w k hb0 hdrain
      simp only [drainThenSend, Trail.drainThenSend, hd]
      generalize ((w.updateFwd k fun f => { f with backlog := some b }).count k
          fun s => { s with drained := s.drained + 1 }) = v at calmed
      have hv := calmed.plain hp
      have calm := Trail.calm_transmit v k env link entry.task entry.text
      rw [transmit_eq hv (calmed.inside.trans hi) (by omega)]
      generalize Trail.transmit env v k link entry.task entry.text = out at calm
      rcases out with ⟨t, link', _ | ⟨⟩⟩ <;> dsimp only at calm ⊢
      · exact giveUp_eq ((calm.previousSink k).symm ▸ hv.previous k) (by omega) link' _ _
      · have hu := (calm.plain hv).updateFwd k (f := fun f => { f with link := some link' }) fun _ => rfl
        refine ih hu ?_ link' (by omega)
        simpa [updateFwd] using calm.inside.trans (calmed.inside.trans hi)

/-- Forwarding a record outside an operation drains the whole backlog first, so
it needs fuel for one walk of it. -/
theorem forward_eq (hp : w.Plain) (hm : (w.fwd k).buffered + 10 ≤ m) :
    forward m env w k r = (Trail.forward env w k r).world := by
  obtain ⟨n, rfl⟩ : ∃ n, m = n + 1 := ⟨m - 1, by omega⟩
  by_cases hd : (w.inside || (w.fwd k).config.isConflicting r.task) = true
  · simp only [forward, Trail.forward, hd, ↓reduceIte]
    exact defer_eq (hp.previous k) (by omega)
  · cases hl : (w.fwd k).link with
    | none =>
      simp only [forward, Trail.forward, hd, Bool.false_eq_true, ↓reduceIte, guarded, fwd_inside,
        previousSink_inside, Trail.within_world, hl, fallBack_eq (hp.previous k) (by omega : 2 ≤ n)]
    | some link =>
      have bound : ((w.fwd k).backlog.map Backlog.len).getD 0 + 9 ≤ n := by
        simp only [Forwarder.buffered] at hm
        omega
      simp only [forward, Trail.forward, hd, Bool.false_eq_true, ↓reduceIte, guarded, fwd_inside,
        Trail.within_world, hl]
      rw [drainThenSend_eq _ (hp.inside true) rfl link bound]

theorem drainTaken_eq {previous : Sink} (hp : w.Plain) (hi : w.inside = true) (hs : previous.isLocal)
    (link : Link) (es : List Entry) (hm : es.length + 9 ≤ m) :
    drainTaken m env w k previous link es =
      ((Trail.drainTaken env w k previous link es).1.world, (Trail.drainTaken env w k previous link es).2) := by
  induction es generalizing w m link with
  | nil =>
    obtain ⟨n, rfl⟩ : ∃ n, m = n + 1 := ⟨m - 1, by omega⟩
    simp [drainTaken, Trail.drainTaken]
  | cons e es ih =>
    obtain ⟨n, rfl⟩ : ∃ n, m = n + 1 := ⟨m - 1, by omega⟩
    simp only [List.length_cons] at hm
    have counted := calm_count w k fun s => { s with drained := s.drained + 1 }
    have hv := counted.plain hp
    have sent := Trail.calm_transmit (w.count k fun s => { s with drained := s.drained + 1 }) k env link
      e.task e.text
    simp only [drainTaken, Trail.drainTaken]
    rw [transmit_eq hv (counted.inside.trans hi) (by omega)]
    generalize Trail.transmit env _ k link e.task e.text = out at sent
    rcases out with ⟨t, link', _ | ⟨⟩⟩ <;> dsimp only at sent ⊢
    · rw [fallBack_eq hs (by omega)]
      rfl
    · rw [ih (sent.plain hv) (sent.inside.trans (counted.inside.trans hi)) link' (by omega)]
      rfl

theorem announce_eq (hp : w.Plain) (hi : w.inside = true) (hm : 7 ≤ m) (e : Diagnostic.Event) :
    announce m env w e = (Trail.announce env w e).world := by
  obtain ⟨n, rfl⟩ : ∃ n, m = n + 1 := ⟨m - 1, by omega⟩
  cases hl : env.logging with
  | none => simp only [announce, Trail.announce, hl, Trail.idle_world]
  | some lg =>
    by_cases ha : lg.admits e = true
    · simp only [announce, Trail.announce, hl, ha, ↓reduceIte]
      exact dispatch_inside_eq hp hi (by omega)
    · simp only [announce, Trail.announce, hl, ha, Bool.false_eq_true, ↓reduceIte, Trail.idle_world]

theorem announceAll_eq (hp : w.Plain) (hi : w.inside = true) (es : List Diagnostic.Event)
    (hm : es.length + 8 ≤ m) : announceAll m env w es = (Trail.announceAll env w es).world := by
  induction es generalizing w m with
  | nil =>
    obtain ⟨n, rfl⟩ : ∃ n, m = n + 1 := ⟨m - 1, by omega⟩
    simp [announceAll, Trail.announceAll]
  | cons e es ih =>
    obtain ⟨n, rfl⟩ : ∃ n, m = n + 1 := ⟨m - 1, by omega⟩
    simp only [List.length_cons] at hm
    have calm := Trail.calm_announce w env e
    simp only [announceAll, Trail.announceAll, Trail.bind_world]
    rw [announce_eq hp hi (by omega)]
    exact ih (calm.plain hp) (calm.inside.trans hi) (by omega)

/-- Stopping sends the backlog while the link works and writes the rest, so it
needs fuel for one walk of the backlog. -/
theorem stop_eq (hp : w.Plain) (hm : (w.fwd k).buffered + 10 ≤ m) :
    stop m env w k = (Trail.stop env w k).world := by
  obtain ⟨n, rfl⟩ : ∃ n, m = n + 1 := ⟨m - 1, by omega⟩
  by_cases hu : (w.fwd k).state = .uninstalled
  · simp [stop, Trail.stop, guarded, hu]
  have hs := hp.previous k
  have h0 : World.Plain (((({ w with inside := true } : World).updateFwd k
      fun f => { f with state := .restoring }).updateFwd k fun f => { f with link := none }).updateFwd k
      fun f => { f with backlog := none }) := by
    refine Plain.updateFwd (Plain.updateFwd (Plain.updateFwd (hp.inside true) k ?_) k ?_) k ?_ <;> simp
  have i0 : World.inside (((({ w with inside := true } : World).updateFwd k
      fun f => { f with state := .restoring }).updateFwd k fun f => { f with link := none }).updateFwd k
      fun f => { f with backlog := none }) = true := by simp
  simp only [stop, Trail.stop, guarded, hu, fwd_inside, ↓reduceIte, takeLink, takeBacklog, link_updateFwd,
    backlog_updateFwd, previousSink_updateFwd, previousSink_inside, implies_true, Trail.bind_world,
    Trail.within_world]
  generalize (((({ w with inside := true } : World).updateFwd k fun f => { f with state := .restoring }).updateFwd k
    fun f => { f with link := none }).updateFwd k fun f => { f with backlog := none }) = u at h0 i0
  cases hb : (w.fwd k).backlog with
  | none =>
    have c := Trail.calm_replay u k (w.previousSink k) []
    cases hl : (w.fwd k).link with
    | none =>
      dsimp only
      rw [replay_eq hs [] (by omega), announce_eq ((c.plain h0).giveBack hs k) (by simp [c.inside, i0])
        (by omega)]
      rfl
    | some l =>
      have c := Trail.calm_replay (u.closeChannel l.channel) k (w.previousSink k) []
      dsimp only
      rw [replay_eq hs [] (by omega),
        announce_eq ((c.plain (h0.closeChannel _)).giveBack hs k) (by simp [c.inside, i0]) (by omega)]
      rfl
  | some b =>
    have hlen : b.entries.length + 9 ≤ n := by
      simp only [Forwarder.buffered, hb, Option.map_some, Option.getD_some, Backlog.len] at hm
      omega
    cases hl : (w.fwd k).link with
    | none =>
      have c := Trail.calm_replay u k (w.previousSink k) b.entries
      dsimp only
      rw [replay_eq hs _ (by omega), announce_eq ((c.plain h0).giveBack hs k) (by simp [c.inside, i0])
        (by omega)]
      rfl
    | some l =>
      dsimp only
      rw [drainTaken_eq h0 i0 hs l b.entries (by omega)]
      have c1 := Trail.calm_drainTaken u k env (w.previousSink k) l b.entries
      have r1 := Trail.length_drainTaken_le u k env (w.previousSink k) l b.entries
      generalize Trail.drainTaken env u k (w.previousSink k) l b.entries = out at c1 r1
      rcases out with ⟨t, rest, _ | e⟩ <;> dsimp only at c1 r1 ⊢
      · have c2 := Trail.calm_replay (t.world.closeChannel l.channel) k (w.previousSink k) rest
        rw [replay_eq hs rest (by omega),
          announce_eq ((c2.plain ((c1.plain h0).closeChannel _)).giveBack hs k)
            (by simp [c2.inside, c1.inside, i0]) (by omega)]
        rfl
      · have c2 := (Trail.calm_replay (t.world.closeChannel l.channel) k (w.previousSink k) rest).trans
          (Trail.calm_fallBack _ k (w.previousSink k) (disabledNotice e))
        rw [replay_eq hs rest (by omega), fallBack_eq hs (by omega),
          announce_eq ((c2.plain ((c1.plain h0).closeChannel _)).giveBack hs k)
            (by simp [c2.inside, c1.inside, i0]) (by omega)]
        rfl
theorem startBuffering_eq (hp : w.Plain) (hm : 8 ≤ m) (capacity : Nat) :
    startBuffering m env w k capacity =
      ((Trail.startBuffering env w k capacity).1.world, (Trail.startBuffering env w k capacity).2) := by
  obtain ⟨n, rfl⟩ : ∃ n, m = n + 1 := ⟨m - 1, by omega⟩
  by_cases hu : (w.fwd k).state = .uninstalled
  · simp only [startBuffering, Trail.startBuffering, guarded, hu, fwd_inside, ne_eq, not_true_eq_false,
      ↓reduceIte, Trail.within_world]
    rw [announce_eq ?plain (by simp) (by omega)]
    case plain =>
      refine Plain.updateFwd (Plain.install (Plain.updateFwd (hp.inside true) k ?_) k (.inl rfl)) k ?_ <;> simp
  · simp [startBuffering, Trail.startBuffering, guarded, hu]

theorem activate_eq (hp : w.Plain) (hm : 8 ≤ m) (channel : Channel) (app : Option String)
    (raw mirror : Bool) :
    activate m env w k channel app raw mirror =
      ((Trail.activate env w k channel app raw mirror).1.world,
        (Trail.activate env w k channel app raw mirror).2) := by
  obtain ⟨n, rfl⟩ : ∃ n, m = n + 1 := ⟨m - 1, by omega⟩
  cases hst : (w.fwd k).state
  case active => simp [activate, Trail.activate, guarded, hst]
  case restoring => simp [activate, Trail.activate, guarded, hst]
  all_goals
    cases hb : (w.fwd k).backlog <;>
      simp only [activate, Trail.activate, guarded, hst, fwd_inside, Trail.within_world, backlog_updateFwd, hb,
        implies_true, Option.isNone_none, Option.isNone_some, ↓reduceIte, Bool.false_eq_true] <;>
      rw [announce_eq (Plain.updateFwd (Plain.install ?_ k (.inr rfl)) k (by simp)) (by simp) (by omega)]
  all_goals
    first
    | rfl
    | repeat (apply Plain.updateFwd _ k (by simp))
      exact hp.inside true

theorem start_eq (hp : w.Plain) (hm : 13 ≤ m) (host : String) (port : Nat) (app : Option String) (raw mirror : Bool) :
    start m env w k host port app raw mirror =
      ((Trail.start env w k host port app raw mirror).1.world, (Trail.start env w k host port app raw mirror).2) := by
  obtain ⟨n, rfl⟩ : ∃ n, m = n + 1 := ⟨m - 1, by omega⟩
  cases hst : (w.fwd k).state
  case active => simp [start, Trail.start, hst]
  case restoring => simp [start, Trail.start, hst]
  all_goals
    simp only [start, Trail.start, hst, guarded, fwd_inside]
    have few := Net.length_resolve_le env.machine host (.withLocalLink (w.fwd k).config.mdnsTimeoutMs)
    generalize (Net.Resolver.withLocalLink (w.fwd k).config.mdnsTimeoutMs).resolve env.machine host = res at few
    rcases res with ⟨resolved, events⟩
    dsimp only at few ⊢
    rw [announceAll_eq (hp.inside true) rfl events (by omega)]
    have c := Trail.calm_announceAll { w with inside := true } env events
    generalize Trail.announceAll env { w with inside := true } events = t at c
    have ht := c.plain (hp.inside true)
    rcases resolved with e | ip
    · rfl
    dsimp only
    rcases Net.UdpLink.open? env.machine.network ip port ⟨(w.fwd k).config.sendTimeoutMs,
      (w.fwd k).config.retryIntervalMs⟩ with e | l
    · rfl
    have c' := Trail.calm_announce t.world env (Diagnostic.Event.say .debug "logfwd::transport"
      "UDP transport opened" [⟨"collector", .text l.dest.text⟩])
    dsimp only
    rw [announce_eq ht c.inside (by omega), activate_eq (c'.plain ht) (by omega)]
    rfl
/-- A record handed to the slot from outside any operation. -/
theorem dispatch_eq (hp : w.Plain) (hm : 2 * w.load + 12 ≤ m) :
    dispatch m env w r = (Trail.dispatch env w r).world := by
  obtain ⟨n, rfl⟩ : ∃ n, m = n + 2 := ⟨m - 2, by omega⟩
  rcases hp.slot with ⟨hlocal, _⟩ | ⟨j, hsink | hsink, _⟩
  · rw [dispatch, write_local _ hlocal]
    unfold Trail.dispatch
    split <;> simp_all [Sink.isLocal, Trail.keep]
  · simp only [dispatch, write, Trail.dispatch, hsink, Trail.bind_world, Trail.emit_world]
    exact defer_eq (hp.previous j) (by omega)
  · have := buffered_le_load w j
    simp only [dispatch, write, Trail.dispatch, hsink, Trail.bind_world, Trail.emit_world]
    exact forward_eq hp (by omega)

/-! ### The operations of a plain world -/

theorem load_le_budget (w : World) : 2 * w.load + 13 ≤ w.budget := by
  have grow : 16 * (w.load + w.fwds.length + 64) ≤ 4 * (w.reactives.length + 4) * (w.load + w.fwds.length + 64) :=
    Nat.mul_le_mul_right _ (by omega)
  rw [budget_eq]
  omega

theorem log_eq (hp : w.Plain) (r : LogRecord) : w.log env r = (Trail.dispatch env w r).world :=
  dispatch_eq hp (by have := load_le_budget w; omega)

theorem stopForwarder_eq (hp : w.Plain) (k : Nat) :
    w.stopForwarder env k = (Trail.stop env w k).world :=
  stop_eq hp (by have := load_le_budget w; have := buffered_le_load w k; omega)

theorem earlyBuffering_eq (hp : w.Plain) (k capacity : Nat) :
    w.earlyBuffering env k capacity =
      ((Trail.startBuffering env w k capacity).1.world, (Trail.startBuffering env w k capacity).2) :=
  startBuffering_eq hp (by have := load_le_budget w; omega) capacity

theorem activateOver_eq (hp : w.Plain) (k : Nat) (c : Channel) (app : Option String) (raw mirror : Bool) :
    w.activateOver env k c app raw mirror =
      ((Trail.activate env w k c app raw mirror).1.world, (Trail.activate env w k c app raw mirror).2) :=
  activate_eq hp (by have := load_le_budget w; omega) c app raw mirror

theorem startTowards_eq (hp : w.Plain) (k : Nat) (host : String) (port : Nat) (app : Option String)
    (raw mirror : Bool) :
    w.startTowards env k host port app raw mirror =
      ((Trail.start env w k host port app raw mirror).1.world, (Trail.start env w k host port app raw mirror).2) :=
  start_eq hp (by have := load_le_budget w; omega) host port app raw mirror

end World

end SyslogRelay.Relay
