import SyslogRelay.Proofs.Operations

/-!
Between operations every forwarder's cells agree with its state.
-/

namespace SyslogRelay.Relay

/-- The scripted wire a channel sends over. -/
def Channel.wire? : Channel → Option Nat
  | .wire i => some i
  | .udp _ => none

/-- The cells a forwarder holds in each state. -/
def Forwarder.shaped (f : Forwarder) : Bool :=
  match f.state with
  | .uninstalled => f.backlog.isNone && f.link.isNone && f.previous.isNone
  | .earlyBuffering => f.backlog.isSome && f.link.isNone
  | .active => f.backlog.isSome && f.link.isSome
  | .restoring => false

theorem Forwarder.Steady.shaped {f g : Forwarder} (h : f.Steady g) : g.shaped = f.shaped := by
  obtain ⟨-, state, previous, link, -, backlog, -⟩ := h
  have stored : g.backlog.isSome = f.backlog.isSome := by
    simpa using congrArg Option.isSome backlog
  simp only [Forwarder.shaped, state, previous, link, ← Option.not_isSome, stored]

namespace World

/-- The scripted wire forwarder `k` sends over. -/
def wireOf (w : World) (k : Nat) : Option Nat := (w.fwd k).link.bind fun l => l.channel.wire?

/-- The structure a world keeps while an operation runs, save for the
forwarder the operation works on. -/
structure Sound (w : World) : Prop where
  plain : w.Plain
  shaped : ∀ k, (w.fwd k).shaped = true
  /-- A forwarder sends over a scripted wire nobody closed. -/
  unclosed : ∀ k i, w.wireOf k = some i → (w.wire i).map Wire.closes = some (some 0)
  /-- No two forwarders send over one wire. -/
  apart : ∀ j k i, w.wireOf j = some i → w.wireOf k = some i → j = k
  /-- A forwarder's own sink in the slot is the one its state calls for. -/
  owner : ∀ k, w.slot.provenance = .forwarder k →
    ((w.fwd k).state = .earlyBuffering ∧ w.slot.sink = .buffering k) ∨
      ((w.fwd k).state = .active ∧ w.slot.sink = .forwarding k)

/-- A sound world between operations. -/
structure Coherent (w : World) : Prop where
  sound : w.Sound
  outside : w.inside = false

variable {w v : World} {k : Nat}

theorem wireOf_of_steady (h : (w.fwd k).Steady (v.fwd k)) : v.wireOf k = w.wireOf k := by
  simp only [wireOf, h.2.2.2.1]

theorem Sound.calm (hs : w.Sound) (h : Calm w v) : v.Sound where
  plain := h.plain hs.plain
  shaped k := (h.steady k).shaped ▸ hs.shaped k
  unclosed k i hi := by
    rw [h.closes]
    exact hs.unclosed k i (wireOf_of_steady (h.steady k) ▸ hi)
  apart j k i hj hk :=
    hs.apart j k i (wireOf_of_steady (h.steady j) ▸ hj) (wireOf_of_steady (h.steady k) ▸ hk)
  owner k hk := by
    rw [h.slot, (h.steady k).2.1] at *
    exact hs.owner k hk

/-- A forwarder that sent over its link keeps the link it got back, over the
same wire. -/
theorem Sound.relink (hs : w.Sound) {l l' : Link} (hl : (w.fwd k).link = some l)
    (hc : l'.channel.wire? = l.channel.wire?) :
    (w.updateFwd k fun f => { f with link := some l' }).Sound := by
  have same : ∀ j, (w.updateFwd k fun f => { f with link := some l' }).wireOf j = w.wireOf j := by
    intro j
    simp only [wireOf, fwd_updateFwd]
    split
    · rename_i h
      obtain ⟨rfl, -⟩ := h
      simp [hl, hc]
    · rfl
  refine ⟨hs.plain.updateFwd k fun _ => rfl, fun j => ?_, fun j i hi => ?_, fun i j n hi hj => ?_,
    fun j hj => ?_⟩
  · have shaped := hs.shaped j
    rw [fwd_updateFwd]
    split
    · rename_i h
      obtain ⟨rfl, -⟩ := h
      simpa [Forwarder.shaped, hl] using shaped
    · exact shaped
  · exact hs.unclosed j i (same j ▸ hi)
  · exact hs.apart i j n (same i ▸ hi) (same j ▸ hj)
  · simpa using hs.owner j (by simpa using hj)

/-- `v` is `w` after forwarder `k` gave back what it held: the slot and every
other forwarder are as they were, and only `k`'s own wire may be closed. -/
structure Aside (k : Nat) (w v : World) : Prop where
  slot : v.slot = w.slot
  fallback : v.fallback = w.fallback
  steady : ∀ j, j ≠ k → (w.fwd j).Steady (v.fwd j)
  closes : ∀ j i, j ≠ k → w.wireOf j = some i → (v.wire i).map Wire.closes = (w.wire i).map Wire.closes

namespace Aside

variable {u : World}

theorem refl (k : Nat) (w : World) : Aside k w w :=
  ⟨rfl, rfl, fun _ _ => Forwarder.Steady.refl _, fun _ _ _ _ => rfl⟩

theorem inside (k : Nat) (w : World) (b : Bool) : Aside k w { w with inside := b } :=
  ⟨rfl, rfl, fun _ _ => Forwarder.Steady.refl _, fun _ _ _ _ => rfl⟩

theorem trans (h : Aside k u v) (h' : Aside k v w) : Aside k u w where
  slot := h'.slot.trans h.slot
  fallback := h'.fallback.trans h.fallback
  steady j hj := (h.steady j hj).trans (h'.steady j hj)
  closes j i hj hi := by
    rw [h'.closes j i hj ((wireOf_of_steady (h.steady j hj)).trans hi), h.closes j i hj hi]

theorem of_calm (h : Calm w v) (k : Nat) : Aside k w v where
  slot := h.slot
  fallback := h.fallback
  steady j _ := h.steady j
  closes _ i _ _ := h.closes i

theorem updateFwd (w : World) (k : Nat) (f : Forwarder → Forwarder) : Aside k w (w.updateFwd k f) where
  slot := rfl
  fallback := rfl
  steady j hj := by
    rw [fwd_updateFwd, if_neg (fun h => hj h.1.symm)]
    exact Forwarder.Steady.refl _
  closes _ _ _ _ := rfl

/-- Closing a channel no other forwarder sends over. -/
theorem closeChannel (h : Aside k w v) {c : Channel}
    (hc : ∀ j i, j ≠ k → w.wireOf j = some i → c.wire? ≠ some i) : Aside k w (v.closeChannel c) where
  slot := by rw [closeChannel_slot, h.slot]
  fallback := by rw [closeChannel_fallback, h.fallback]
  steady j hj := by rw [closeChannel_fwd]; exact h.steady j hj
  closes j i hj hi := by
    rw [← h.closes j i hj hi]
    cases c with
    | udp _ => rfl
    | wire n =>
      have hn : n ≠ i := fun hn => hc j i hj hi (by simp [Channel.wire?, hn])
      simp [World.closeChannel, wire, updateWire, hn]

end Aside

theorem Forwarder.shaped_default : (default : Forwarder).shaped = true := rfl

/-- A settled forwarder that gave back its backlog and link holds nothing. -/
theorem shaped_settle (hb : (w.fwd k).backlog = none) (hl : (w.fwd k).link = none) :
    ((w.settle k).fwd k).shaped = true := by
  rw [fwd_settle]
  split
  · simp [Forwarder.shaped, hb, hl]
  · rename_i hk
    rw [fwd_of_length_le w k (by omega)]
    exact Forwarder.shaped_default

theorem link_settle (j : Nat) : ((w.settle k).fwd j).link = (w.fwd j).link := by
  rw [fwd_settle]
  split <;> rfl

/-- Once forwarder `k` has given back its backlog and link, settling it and
giving the slot back leaves a sound world. -/
theorem Sound.release (hs : w.Sound) (h : Aside k w v) (hp : v.Plain) (hb : (v.fwd k).backlog = none)
    (hl : (v.fwd k).link = none) {P : Sink} (hP : P.isLocal) :
    (((v.flush P).restoreIf k P).1.settle k).Sound := by
  have others : ∀ j, j ≠ k → (((v.flush P).restoreIf k P).1.settle k).fwd j = v.fwd j := by
    intro j hj
    rw [fwd_settle_of_ne _ _ hj]
    simp
  have unlinked : (((v.flush P).restoreIf k P).1.settle k).wireOf k = none := by
    simp [wireOf, link_settle, hl]
  have wired : ∀ j, j ≠ k → (((v.flush P).restoreIf k P).1.settle k).wireOf j = w.wireOf j := by
    intro j hj
    simp only [wireOf, others j hj]
    exact wireOf_of_steady (h.steady j hj)
  refine ⟨hp.giveBack hP k, fun j => ?_, fun j i hi => ?_, fun j j' i hj hj' => ?_, fun j hj => ?_⟩
  · by_cases hjk : j = k
    · subst hjk
      exact shaped_settle (by simpa using hb) (by simpa using hl)
    · rw [others j hjk]
      exact (h.steady j hjk).shaped ▸ hs.shaped j
  · have hjk : j ≠ k := by rintro rfl; simp [unlinked] at hi
    rw [wired j hjk] at hi
    simpa [h.closes j i hjk hi] using hs.unclosed j i hi
  · have hjk : j ≠ k := by rintro rfl; simp [unlinked] at hj
    have hjk' : j' ≠ k := by rintro rfl; simp [unlinked] at hj'
    exact hs.apart j j' i (wired j hjk ▸ hj) (wired j' hjk' ▸ hj')
  · simp only [slot_settle, restoreIf_slot, flush_slot, Installed.restoreIf] at hj ⊢
    split at hj
    · simp at hj
    · rename_i hk
      have hjk : j ≠ k := by rintro rfl; exact hk hj
      rw [if_neg hk, others j hjk, (h.steady j hjk).2.1, h.slot]
      exact hs.owner j (h.slot ▸ hj)

theorem Calm.backlog_none (h : Calm w v) (hb : (w.fwd k).backlog = none) : (v.fwd k).backlog = none := by
  have kept := (h.steady k).2.2.2.2.2.1
  rw [hb, Option.map_none] at kept
  exact Option.map_eq_none_iff.mp kept

theorem Calm.link (h : Calm w v) (k : Nat) : (v.fwd k).link = (w.fwd k).link := (h.steady k).2.2.2.1

variable {m : World}

/-- Giving up while active, once the link is gone, leaves a sound world. -/
theorem Sound.disable (hs : w.Sound) (h : Aside k w m) (hp : m.Plain) (hl : (m.fwd k).link = none)
    {P : Sink} (hP : P.isLocal) (err : Net.LinkError) (r : LogRecord) :
    (Trail.disable m k err P r).world.Sound := by
  have taken : Aside k w ((((m.updateFwd k fun f => { f with state := .restoring }).count k
      fun s => { s with failures := s.failures + 1 }).updateFwd k fun f => { f with backlog := none })) :=
    h.trans (((Aside.updateFwd _ k _).trans (Aside.updateFwd _ k _)).trans (Aside.updateFwd _ k _))
  have plain : World.Plain (((m.updateFwd k fun f => { f with state := .restoring }).count k
      fun s => { s with failures := s.failures + 1 }).updateFwd k fun f => { f with backlog := none }) := by
    refine Plain.updateFwd (Plain.updateFwd (Plain.updateFwd hp k ?_) k ?_) k ?_ <;> simp
  have unbuffered : ((((m.updateFwd k fun f => { f with state := .restoring }).count k
      fun s => { s with failures := s.failures + 1 }).updateFwd k fun f => { f with backlog := none }).fwd k).backlog
      = none := by
    rw [fwd_updateFwd]
    split
    · rfl
    · rename_i hk
      rw [fwd_of_length_le _ k (by simp at hk ⊢; omega)]
      rfl
  have unlinked : ((((m.updateFwd k fun f => { f with state := .restoring }).count k
      fun s => { s with failures := s.failures + 1 }).updateFwd k fun f => { f with backlog := none }).fwd k).link
      = none := by
    simpa [count] using hl
  -- which backlog is replayed does not matter: what follows only writes locally
  have written : ∀ t : Trail, Calm ((((m.updateFwd k fun f => { f with state := .restoring }).count k
      fun s => { s with failures := s.failures + 1 }).updateFwd k fun f => { f with backlog := none })) t.world →
      World.Sound ((((Trail.fallBack (Trail.notice t.world k P err).world k P r).world.flush P).restoreIf k
        P).1.settle k) := by
    intro t ct
    have c := (ct.trans (Trail.calm_notice _ k P err)).trans (Trail.calm_fallBack _ k P r)
    exact hs.release (taken.trans (Aside.of_calm c k)) (c.plain plain) (c.backlog_none unbuffered)
      ((c.link k).trans unlinked) hP
  cases hb : (m.fwd k).backlog with
  | none =>
    simp only [Trail.disable, takeBacklog, count, backlog_updateFwd, implies_true, hb, Trail.bind_world,
      Trail.idle_world]
    exact written (Trail.idle _) (Calm.refl _)
  | some b =>
    simp only [Trail.disable, takeBacklog, count, backlog_updateFwd, implies_true, hb, Trail.bind_world,
      Trail.idle_world]
    exact written _ (Trail.calm_replay _ k P b.entries)

/-- A forwarder that gives up after a failed send leaves a sound world: it
closes its own wire only, and nothing else changes but what it wrote. -/
theorem Sound.giveUp (hs : v.Sound) (ha : (v.fwd k).state = .active) {l link : Link}
    (hl : (v.fwd k).link = some l) (hc : link.channel.wire? = l.channel.wire?)
    (err : Net.LinkError) (unsent : Option Entry) (r : LogRecord) :
    (Trail.giveUp v k link err unsent r).world.Sound := by
  have closed : Aside k v ((v.updateFwd k fun f => { f with link := none }).closeChannel link.channel) := by
    refine (Aside.updateFwd v k _).closeChannel fun j i hj hi hci => hj (hs.apart j k i hi ?_)
    simp [wireOf, hl, ← hc, hci]
  have plain : World.Plain ((v.updateFwd k fun f => { f with link := none }).closeChannel link.channel) := by
    refine Plain.closeChannel (Plain.updateFwd hs.plain k ?_) _
    simp
  have active :
      (((v.updateFwd k fun f => { f with link := none }).closeChannel link.channel).fwd k).state = .active := by
    simp [closeChannel_fwd, ha]
  have unlinked :
      (((v.updateFwd k fun f => { f with link := none }).closeChannel link.channel).fwd k).link = none := by
    rw [closeChannel_fwd, fwd_updateFwd]
    split
    · rfl
    · rename_i hk
      rw [fwd_of_length_le v k (by simp at hk; omega)]
      rfl
  unfold Trail.giveUp Trail.teardown
  generalize (v.updateFwd k fun f => { f with link := none }).closeChannel link.channel = m at *
  cases unsent with
  | none =>
    simp only [Trail.bind_world, Trail.idle_world, active, ne_eq, not_true_eq_false, ↓reduceIte]
    exact hs.disable closed plain unlinked (plain.previous k) err r
  | some e =>
    have c := Trail.calm_fallBack m k (m.previousSink k) (LogRecord.ofEntry e)
    simp only [Trail.bind_world, (c.steady k).2.1, active, ne_eq, not_true_eq_false, ↓reduceIte]
    exact hs.disable (closed.trans (Aside.of_calm c k)) (c.plain plain) ((c.link k).trans unlinked)
      (plain.previous k) err r

theorem wire?_transmit (env : Surroundings) (w : World) (k : Nat) (link : Link) (task : Option String)
    (text : String) : (Trail.transmit env w k link task text).2.1.channel.wire? = link.channel.wire? := by
  unfold Trail.transmit
  dsimp only
  split
  · split <;> rfl
  · rename_i l hc
    split <;> simp [Channel.wire?, hc]

theorem Sound.inside (hs : w.Sound) (b : Bool) : ({ w with inside := b } : World).Sound :=
  ⟨hs.plain.inside b, hs.shaped, hs.unclosed, hs.apart, hs.owner⟩

/-- The forwarder whose forwarding sink is in the slot is active. -/
theorem Sound.active_of_forwarding (hs : w.Sound) (h : w.slot.sink = .forwarding k) :
    (w.fwd k).state = .active := by
  rcases hs.plain.slot with ⟨hlocal, -⟩ | ⟨j, hj, hprov⟩
  · simp [h, Sink.isLocal] at hlocal
  · have hjk : j = k := by rcases hj with hj | hj <;> simp_all
    subst hjk
    rcases hs.owner j hprov with ⟨-, hb⟩ | ⟨ha, -⟩
    · simp_all
    · exact ha

variable {env : Surroundings} {r : LogRecord}

theorem Sound.sendLast (hs : w.Sound) (ha : (w.fwd k).state = .active) {link : Link}
    (hl : (w.fwd k).link = some link) : (Trail.sendLast env w k r link).world.Sound := by
  have calm := Trail.calm_transmit w k env link r.task (Text.cutBytes r.text maxLineBytes)
  have same := wire?_transmit env w k link r.task (Text.cutBytes r.text maxLineBytes)
  unfold Trail.sendLast
  generalize Trail.transmit env w k link r.task (Text.cutBytes r.text maxLineBytes) = out at calm same
  rcases out with ⟨t, link', _ | ⟨⟩⟩ <;> dsimp only at calm same ⊢
  · rw [Trail.bind_world]
    exact (hs.calm calm).giveUp ((calm.steady k).2.1.trans ha) ((calm.link k).trans hl) same _ _ _
  · exact ((hs.calm calm).relink ((calm.link k).trans hl) same).calm (Trail.calm_echo _ k r)

/-- The drain loop keeps a world sound: each entry sent is calm, the link it
gets back goes over the same wire, and a failure gives up soundly. -/
theorem Sound.drainThenSend (hs : w.Sound) (ha : (w.fwd k).state = .active) {link : Link}
    (hl : (w.fwd k).link = some link) (pending : Nat) :
    (Trail.drainThenSend env w k r link pending).world.Sound := by
  fun_induction Trail.drainThenSend env w k r link pending with
  | case1 w link | case4 w link _ _ => exact hs.sendLast ha hl
  | case2 w link pending b entry hd v u t link' sent ih =>
    have calm := Trail.calm_transmit u k env link entry.task entry.text
    have same := wire?_transmit env u k link entry.task entry.text
    rw [sent] at calm same
    have c := (calm_drainOne_of_map w k hd).trans calm
    obtain ⟨b0, hb0, -⟩ := Option.map_eq_some_iff.mp hd
    refine ih t.world ((hs.calm c).relink ((c.link k).trans hl) same) ?_ ?_
    · simpa [(c.steady k).2.1] using ha
    · rw [fwd_updateFwd_self _ k _ (c.length ▸ lt_length_of_backlog w k hb0)]
  | case3 w link pending b entry hd v u t link' err failed =>
    have calm := Trail.calm_transmit u k env link entry.task entry.text
    have same := wire?_transmit env u k link entry.task entry.text
    rw [failed] at calm same
    have c := (calm_drainOne_of_map w k hd).trans calm
    rw [Trail.bind_world]
    exact (hs.calm c).giveUp ((c.steady k).2.1.trans ha) ((c.link k).trans hl) same _ _ _

theorem Sound.forward (hs : w.Sound) (ha : (w.fwd k).state = .active) :
    (Trail.forward env w k r).world.Sound := by
  unfold Trail.forward
  split
  · exact hs.calm (Trail.calm_defer w k r)
  · rw [Trail.within_world]
    refine Sound.inside ?_ _
    split
    · exact (hs.inside true).calm (Trail.calm_fallBack _ k _ r)
    · rename_i link hl
      exact (hs.inside true).drainThenSend ha hl _

theorem Sound.dispatch (hs : w.Sound) : (Trail.dispatch env w r).world.Sound := by
  unfold Trail.dispatch
  split
  · exact hs.calm (Trail.calm_defer w _ r)
  · rename_i k hk
    exact hs.forward (hs.active_of_forwarding hk)
  · exact hs.calm (World.calm_keep w _ r)

section Install

variable (w : World) (k j : Nat) (s : Sink)

@[simp] theorem install_slot : (w.install k s).slot = ⟨s, .forwarder k⟩ := by
  by_cases h : w.slot.provenance.isForwarder = true <;> simp [install, Installed.swap, h]

@[simp] theorem install_wire (i : Nat) : (w.install k s).wire i = w.wire i := by
  by_cases h : w.slot.provenance.isForwarder = true <;> simp [install, Installed.swap, h, wire]

@[simp] theorem install_length : (w.install k s).fwds.length = w.fwds.length := by
  by_cases h : w.slot.provenance.isForwarder = true <;> simp [install, Installed.swap, h]

/-- Installing changes at most the sink forwarder `k` remembers. -/
theorem install_fwd_view {α : Type} (g : Forwarder → α) (hg : ∀ f p, g { f with previous := p } = g f) :
    g ((w.install k s).fwd j) = g (w.fwd j) := by
  by_cases h : w.slot.provenance.isForwarder = true
  · simp [install, Installed.swap, h, fwd]
  · simp only [install, Installed.swap, h, Bool.false_eq_true, ↓reduceIte]
    exact fwd_updateFwd_view _ k j _ g fun f => hg f _

theorem install_fwd_of_ne (h : j ≠ k) : (w.install k s).fwd j = w.fwd j := by
  by_cases hp : w.slot.provenance.isForwarder = true
  · simp [install, Installed.swap, hp, fwd]
  · simp only [install, Installed.swap, hp, Bool.false_eq_true, ↓reduceIte]
    rw [fwd_updateFwd, if_neg fun h' => h h'.1.symm]
    rfl

end Install

variable {x : World}

/-- Installing forwarder `k`'s own sink, with the state it calls for, leaves a
sound world once `k` holds the cells of that state over a wire of its own. -/
theorem Sound.install (hs : w.Sound) (h : Aside k w x) (hx : x.Plain) (hk : k < x.fwds.length)
    {st : State} {s : Sink} (hst : (st = .earlyBuffering ∧ s = .buffering k) ∨ (st = .active ∧ s = .forwarding k))
    (hshape : ({ x.fwd k with state := st } : Forwarder).shaped = true)
    (hwire : ∀ i, x.wireOf k = some i → (x.wire i).map Wire.closes = some (some 0) ∧ ∀ j, j ≠ k → w.wireOf j ≠ some i) :
    ((x.install k s).updateFwd k fun f => { f with state := st }).Sound := by
  have others : ∀ j, j ≠ k → ((x.install k s).updateFwd k fun f => { f with state := st }).fwd j = x.fwd j := by
    intro j hj
    rw [fwd_updateFwd, if_neg fun h' => hj h'.1.symm, install_fwd_of_ne _ _ _ _ hj]
  have self : ((x.install k s).updateFwd k fun f => { f with state := st }).fwd k =
      { (x.install k s).fwd k with state := st } := fwd_updateFwd_self _ k _ (by simpa using hk)
  have linked : ∀ j, ((x.install k s).updateFwd k fun f => { f with state := st }).wireOf j = x.wireOf j := by
    intro j
    simp only [wireOf]
    rw [link_updateFwd _ _ _ (fun f => { f with state := st }) fun _ => rfl]
    exact congrArg (fun l => Option.bind l _) (install_fwd_view x k j s Forwarder.link fun _ _ => rfl)
  have wired : ∀ j, j ≠ k → ((x.install k s).updateFwd k fun f => { f with state := st }).wireOf j = w.wireOf j :=
    fun j hj => (linked j).trans (wireOf_of_steady (h.steady j hj))
  have plain : World.Plain ((x.install k s).updateFwd k fun f => { f with state := st }) := by
    refine Plain.updateFwd (hx.install k ?_) k fun _ => rfl
    rcases hst with ⟨-, rfl⟩ | ⟨-, rfl⟩ <;> simp
  refine ⟨plain, fun j => ?_, fun j i hi => ?_, fun j j' i hj hj' => ?_, fun j hj => ?_⟩
  · by_cases hjk : j = k
    · subst hjk
      have hb := install_fwd_view x j j s Forwarder.backlog fun _ _ => rfl
      have hl := install_fwd_view x j j s Forwarder.link fun _ _ => rfl
      rw [self]
      rcases hst with ⟨rfl, -⟩ | ⟨rfl, -⟩ <;> simpa [Forwarder.shaped, hb, hl] using hshape
    · rw [others j hjk]
      exact (h.steady j hjk).shaped ▸ hs.shaped j
  · by_cases hjk : j = k
    · subst hjk
      simpa using (hwire i ((linked j).symm.trans hi)).1
    · rw [wired j hjk] at hi
      simpa [h.closes j i hjk hi] using hs.unclosed j i hi
  · by_cases hjk : j = k <;> by_cases hjk' : j' = k
    · rw [hjk, hjk']
    · subst hjk
      exact absurd (wired j' hjk' ▸ hj') ((hwire i ((linked j).symm.trans hj)).2 j' hjk')
    · subst hjk'
      exact absurd (wired j hjk ▸ hj) ((hwire i ((linked j').symm.trans hj')).2 j hjk)
    · exact hs.apart j j' i (wired j hjk ▸ hj) (wired j' hjk' ▸ hj')
  · simp only [slot_updateFwd, install_slot, Provenance.forwarder.injEq] at hj ⊢
    subst hj
    rw [self]
    rcases hst with ⟨rfl, rfl⟩ | ⟨rfl, rfl⟩ <;> simp

theorem Sound.startBuffering (hs : w.Sound) (hk : k < w.fwds.length) (capacity : Nat) :
    (Trail.startBuffering env w k capacity).1.world.Sound := by
  by_cases unused : (w.fwd k).state = .uninstalled
  · have shaped := hs.shaped k
    simp only [Forwarder.shaped, unused, Bool.and_eq_true, Option.isNone_iff_eq_none] at shaped
    simp only [Trail.startBuffering, fwd_inside, unused, ne_eq, not_true_eq_false, ↓reduceIte,
      Trail.within_world]
    refine Sound.inside (Sound.calm ?_ (Trail.calm_announce _ _ _)) _
    refine (hs.inside true).install (Aside.updateFwd _ k _) ((hs.plain.inside true).updateFwd k ?_)
      (by simpa using hk) (Or.inl ⟨rfl, rfl⟩) ?_ fun i hi => ?_
    · simp
    · simp [fwd_updateFwd, hk, Forwarder.shaped, shaped]
    · simp [wireOf, fwd_updateFwd, hk, shaped] at hi
  · simp only [Trail.startBuffering, fwd_inside, unused, ne_eq, not_false_eq_true, ↓reduceIte,
      Trail.within_world, Trail.idle_world]
    exact hs.inside _

/-- The world activation leaves, once forwarder `k` holds a link over a channel
of its own: a backlog if it had none, its forwarding sink in the slot, active. -/
theorem Sound.linkUp (hs : w.Sound) (hk : k < w.fwds.length) {l : Link}
    (hc : ∀ i, l.channel.wire? = some i → (w.wire i).map Wire.closes = some (some 0) ∧ ∀ j, w.wireOf j ≠ some i)
    (mirror : Bool) (capacity : Nat) :
    World.Sound (((if ((w.updateFwd k fun f => { f with link := some l, mirror := mirror }).fwd k).backlog.isNone
        then (w.updateFwd k fun f => { f with link := some l, mirror := mirror }).updateFwd k
          fun f => { f with backlog := some (Backlog.new capacity) }
        else w.updateFwd k fun f => { f with link := some l, mirror := mirror }).install k (.forwarding k)).updateFwd k
          fun f => { f with state := .active }) := by
  generalize hx : w.updateFwd k (fun f => { f with link := some l, mirror := mirror }) = x
  have ax : Aside k w x := hx ▸ Aside.updateFwd _ _ _
  have px : x.Plain := hx ▸ hs.plain.updateFwd k fun _ => rfl
  have kx : k < x.fwds.length := by rw [← hx]; simpa using hk
  have lx : (x.fwd k).link = some l := by rw [← hx, fwd_updateFwd_self _ k _ hk]
  have wx : ∀ i, x.wireOf k = some i →
      (x.wire i).map Wire.closes = some (some 0) ∧ ∀ j, j ≠ k → w.wireOf j ≠ some i := by
    intro i hi
    have hl : l.channel.wire? = some i := by simpa [wireOf, lx] using hi
    rw [← hx, wire_updateFwd]
    exact ⟨(hc i hl).1, fun j _ => (hc i hl).2 j⟩
  split
  · rename_i hb
    refine hs.install (ax.trans (Aside.updateFwd _ k fun f => { f with backlog := some (Backlog.new capacity) }))
      (px.updateFwd k (f := fun f => { f with backlog := some (Backlog.new capacity) }) fun _ => rfl) (by simpa using kx)
      (Or.inr ⟨rfl, rfl⟩) ?_ fun i hi => ?_
    · simp [fwd_updateFwd_self _ k _ kx, Forwarder.shaped, lx]
    · have hi' : x.wireOf k = some i := by
        simpa [wireOf, fwd_updateFwd_self _ k _ kx, lx] using hi
      simpa using wx i hi'
  · rename_i hb
    refine hs.install ax px kx (Or.inr ⟨rfl, rfl⟩) ?_ wx
    simpa [Forwarder.shaped, lx, Option.isSome_iff_ne_none] using hb

/-- Activating forwarder `k` over a channel whose wire nobody closed or uses
leaves a sound world. -/
theorem Sound.activate (hs : w.Sound) (hk : k < w.fwds.length) {channel : Channel}
    (hc : ∀ i, channel.wire? = some i → (w.wire i).map Wire.closes = some (some 0) ∧ ∀ j, w.wireOf j ≠ some i)
    (app : Option String) (raw mirror : Bool) :
    (Trail.activate env w k channel app raw mirror).1.world.Sound := by
  rcases hst : (w.fwd k).state with _ | _ | _ | _ <;>
    simp only [Trail.activate, fwd_inside, hst, Trail.within_world, Trail.idle_world]
  case active | restoring => exact hs.inside _
  all_goals
    refine Sound.inside (Sound.calm ?_ (Trail.calm_announce _ _ _)) _
    exact (hs.inside true).linkUp hk hc mirror _

/-- Starting forwarder `k` towards a host only announces, unless it opens a UDP
link and activates over it. -/
theorem Sound.start (hs : w.Sound) (hk : k < w.fwds.length) (host : String) (port : Nat)
    (app : Option String) (raw mirror : Bool) : (Trail.start env w k host port app raw mirror).1.world.Sound := by
  have announced : ∀ es, World.Sound (Trail.announceAll env { w with inside := true } es).world :=
    fun es => (hs.inside true).calm (Trail.calm_announceAll _ env es)
  rcases hst : (w.fwd k).state with _ | _ | _ | _ <;> simp only [Trail.start, hst]
  case active | restoring => exact hs
  all_goals
    split
    · exact (announced _).inside _
    · split
      · exact (announced _).inside _
      · rw [Trail.within_world, Trail.after_world, Trail.bind_world]
        refine Sound.inside (Sound.activate ((announced _).calm (Trail.calm_announce _ env _)) ?_
          (fun i hi => ?_) app raw mirror) _
        · rw [(Trail.calm_announce _ env _).length, (Trail.calm_announceAll _ env _).length]
          exact hk
        · simp [Channel.wire?] at hi

/-- Stopping forwarder `k` gives back everything it holds and closes its own
wire only, which leaves a sound world. -/
theorem Sound.stop (hs : w.Sound) : (Trail.stop env w k).world.Sound := by
  by_cases unused : (w.fwd k).state = .uninstalled
  · simp only [Trail.stop, fwd_inside, unused, ↓reduceIte, Trail.within_world, Trail.idle_world]
    exact hs.inside _
  have hk : k < w.fwds.length := (Nat.lt_or_ge k w.fwds.length).resolve_right fun hk =>
    unused (by rw [fwd_of_length_le w k hk]; rfl)
  have hP := hs.plain.previous k
  have a0 : Aside k w (((({ w with inside := true } : World).updateFwd k
      fun f => { f with state := .restoring }).updateFwd k fun f => { f with link := none }).updateFwd k
      fun f => { f with backlog := none }) :=
    (((Aside.inside k w true).trans (Aside.updateFwd _ k _)).trans
      (Aside.updateFwd _ k _)).trans (Aside.updateFwd _ k _)
  have p0 : World.Plain (((({ w with inside := true } : World).updateFwd k
      fun f => { f with state := .restoring }).updateFwd k fun f => { f with link := none }).updateFwd k
      fun f => { f with backlog := none }) := by
    refine Plain.updateFwd (Plain.updateFwd (Plain.updateFwd (hs.plain.inside true) k ?_) k ?_) k ?_ <;> simp
  have b0 : ((((({ w with inside := true } : World).updateFwd k
      fun f => { f with state := .restoring }).updateFwd k fun f => { f with link := none }).updateFwd k
      fun f => { f with backlog := none }).fwd k).backlog = none := by
    simp [fwd_updateFwd, hk]
  have l0 : ((((({ w with inside := true } : World).updateFwd k
      fun f => { f with state := .restoring }).updateFwd k fun f => { f with link := none }).updateFwd k
      fun f => { f with backlog := none }).fwd k).link = none := by
    simp [fwd_updateFwd, hk]
  simp only [Trail.stop, fwd_inside, unused, ↓reduceIte, takeLink, takeBacklog, link_updateFwd,
    backlog_updateFwd, previousSink_updateFwd, previousSink_inside, implies_true, Trail.bind_world,
    Trail.within_world]
  refine Sound.inside ?_ _
  generalize (((({ w with inside := true } : World).updateFwd k fun f => { f with state := .restoring }).updateFwd k
    fun f => { f with link := none }).updateFwd k fun f => { f with backlog := none }) = u at a0 p0 b0 l0
  have finish : ∀ x y, Aside k w x → x.Plain → (x.fwd k).backlog = none → (x.fwd k).link = none → Calm x y →
      ∀ e, (Trail.announce env (((y.flush (w.previousSink k)).restoreIf k (w.previousSink k)).1.settle k)
        e).world.Sound :=
    fun x y a p b l c e => (hs.release (a.trans (Aside.of_calm c k)) (c.plain p) (c.backlog_none b)
      ((c.link k).trans l) hP).calm (Trail.calm_announce _ env e)
  have closing : ∀ x l, (w.fwd k).link = some l → Aside k w x → Aside k w (x.closeChannel l.channel) := by
    intro x l hl a
    refine a.closeChannel fun j i hj hi hci => hj (hs.apart j k i hi ?_)
    simp [wireOf, hl, hci]
  cases hb : (w.fwd k).backlog with
  | none =>
    cases hl : (w.fwd k).link with
    | none =>
      dsimp only [Trail.idle_world]
      exact finish u _ a0 p0 b0 l0 (Trail.calm_replay u k _ []) _
    | some l =>
      dsimp only [Trail.idle_world]
      exact finish _ _ (closing u l hl a0) (p0.closeChannel _) (by rw [closeChannel_fwd]; exact b0)
        (by rw [closeChannel_fwd]; exact l0)
        (Trail.calm_replay _ k _ []) _
  | some b =>
    cases hl : (w.fwd k).link with
    | none =>
      dsimp only [Trail.idle_world]
      exact finish u _ a0 p0 b0 l0 (Trail.calm_replay u k _ b.entries) _
    | some l =>
      dsimp only [Trail.idle_world]
      have c1 := Trail.calm_drainTaken u k env (w.previousSink k) l b.entries
      generalize Trail.drainTaken env u k (w.previousSink k) l b.entries = out at c1
      rcases out with ⟨t, rest, _ | e⟩ <;> dsimp only [Trail.idle_world] at c1 ⊢
      · exact finish _ _ (closing _ l hl (a0.trans (Aside.of_calm c1 k))) ((c1.plain p0).closeChannel _)
          (by rw [closeChannel_fwd]; exact c1.backlog_none b0) (by rw [closeChannel_fwd]; exact (c1.link k).trans l0) (Trail.calm_replay _ k _ rest) _
      · exact finish _ _ (closing _ l hl (a0.trans (Aside.of_calm c1 k))) ((c1.plain p0).closeChannel _)
          (by rw [closeChannel_fwd]; exact c1.backlog_none b0) (by rw [closeChannel_fwd]; exact (c1.link k).trans l0)
          ((Trail.calm_replay _ k _ rest).trans (Trail.calm_notice _ k _ e)) _

/-- A forwarder's wire is one the world has. -/
theorem Sound.wire_lt (hs : w.Sound) {j i : Nat} (hi : w.wireOf j = some i) : i < w.wires.length :=
  (Nat.lt_or_ge i w.wires.length).resolve_right fun h => by
    have open_ := hs.unclosed j i hi
    simp [wire, List.getElem?_eq_none h] at open_

theorem fwd_addForwarder (w : World) (config : Config) (j : Nat) :
    (w.addForwarder config).1.fwd j = w.fwd j ∨
      (w.fwds.length = j ∧ (w.addForwarder config).1.fwd j = Forwarder.new config) := by
  simp only [addForwarder, fwd, List.getD_eq_getElem?_getD]
  rcases Nat.lt_trichotomy j w.fwds.length with h | rfl | h
  · left
    rw [List.getElem?_append_left h]
  · right
    simp
  · left
    rw [List.getElem?_eq_none (by simp; omega), List.getElem?_eq_none (by omega)]

theorem Sound.addForwarder (hs : w.Sound) (config : Config) : (w.addForwarder config).1.Sound := by
  have unused : (w.fwd w.fwds.length).state = .uninstalled := by
    rw [fwd_of_length_le w _ (Nat.le_refl _)]
    rfl
  have wired : ∀ j, (w.addForwarder config).1.wireOf j = w.wireOf j ∨
      (w.fwds.length = j ∧ (w.addForwarder config).1.wireOf j = none) := by
    intro j
    rcases fwd_addForwarder w config j with h | ⟨hj, h⟩
    · exact Or.inl (by simp only [wireOf, h])
    · exact Or.inr ⟨hj, by simp [wireOf, h, Forwarder.new]⟩
  refine ⟨⟨fun j => ?_, hs.plain.slot⟩, fun j => ?_, fun j i hi => ?_, fun j j' i hj hj' => ?_, fun j hj => ?_⟩
  · rcases fwd_addForwarder w config j with h | ⟨-, h⟩
    · rw [previousSink, h, show (w.addForwarder config).1.fallback = w.fallback from rfl]
      exact hs.plain.previous j
    · rw [previousSink, h, show (w.addForwarder config).1.fallback = w.fallback from rfl]
      exact hs.plain.fallback_local
  · rcases fwd_addForwarder w config j with h | ⟨-, h⟩
    · rw [h]
      exact hs.shaped j
    · rw [h]
      rfl
  · rcases wired j with h | ⟨-, h⟩
    · exact hs.unclosed j i (h ▸ hi)
    · simp [h] at hi
  · rcases wired j with h | ⟨-, h⟩
    · rcases wired j' with h' | ⟨-, h'⟩
      · exact hs.apart j j' i (h ▸ hj) (h' ▸ hj')
      · simp [h'] at hj'
    · simp [h] at hj
  · rcases fwd_addForwarder w config j with h | ⟨hl, -⟩
    · rw [h]
      exact hs.owner j hj
    · subst hl
      rcases hs.owner _ hj with ⟨hst, -⟩ | ⟨hst, -⟩ <;> simp [unused] at hst

/-- Putting a local sink in the slot from outside keeps a world sound. -/
theorem Sound.installForeign (hs : w.Sound) {s : Sink} (hl : s.isLocal) : (w.installForeign s).1.Sound where
  plain := ⟨hs.plain.previous, Or.inl ⟨hl, rfl⟩⟩
  shaped := hs.shaped
  unclosed := hs.unclosed
  apart := hs.apart
  owner _ hj := nomatch hj

theorem Sound.addWire (hs : w.Sound) (x : Wire) : (w.addWire x).1.Sound where
  plain := hs.plain.addWire x
  shaped := hs.shaped
  unclosed j i hi := by
    show ((w.wires ++ [x])[i]?).map Wire.closes = _
    rw [List.getElem?_append_left (hs.wire_lt hi)]
    exact hs.unclosed j i hi
  apart := hs.apart
  owner := hs.owner

section Outside

/-! Every operation hands the world back with the flag it found. -/

theorem inside_forward : (Trail.forward env w k r).world.inside = w.inside := by
  unfold Trail.forward
  split
  · exact (Trail.calm_defer w k r).inside
  · rfl

theorem inside_dispatch : (Trail.dispatch env w r).world.inside = w.inside := by
  unfold Trail.dispatch
  split
  · exact (Trail.calm_defer w _ r).inside
  · exact inside_forward
  · exact (World.calm_keep w _ r).inside

theorem inside_startBuffering (capacity : Nat) :
    (Trail.startBuffering env w k capacity).1.world.inside = w.inside := by
  by_cases unused : (w.fwd k).state = .uninstalled <;> simp [Trail.startBuffering, unused]

theorem inside_activate (channel : Channel) (app : Option String) (raw mirror : Bool) :
    (Trail.activate env w k channel app raw mirror).1.world.inside = w.inside := by
  rcases hst : (w.fwd k).state with _ | _ | _ | _ <;> simp [Trail.activate, hst]

theorem inside_start (host : String) (port : Nat) (app : Option String) (raw mirror : Bool) :
    (Trail.start env w k host port app raw mirror).1.world.inside = w.inside := by
  rcases hst : (w.fwd k).state with _ | _ | _ | _ <;> simp only [Trail.start, hst]
  case active | restoring => rfl
  all_goals
    split
    · rfl
    · split <;> rfl

theorem inside_apply (op : Op) : (Trail.apply env w op).world.inside = w.inside := by
  cases op with
  | addForwarder config => rfl
  | log r => exact inside_dispatch
  | earlyBuffering k capacity => exact inside_startBuffering capacity
  | activate k x app raw mirror => exact inside_activate _ app raw mirror
  | start k host port app raw mirror => exact inside_start host port app raw mirror
  | stop k => rfl
  | shutdown k => rfl
  | install s => rfl

end Outside

/-- Every operation a caller is allowed keeps a world sound. -/
theorem Sound.apply (hs : w.Sound) {op : Op} (ho : op.Allowed w) : (Trail.apply env w op).world.Sound := by
  cases op with
  | addForwarder config => exact hs.addForwarder config
  | log r => exact hs.dispatch
  | earlyBuffering k capacity => exact hs.startBuffering ho capacity
  | activate k x app raw mirror =>
    obtain ⟨hk, hx⟩ := ho
    refine (hs.addWire (.scripted x)).activate hk (fun i hi => ?_) app raw mirror
    simp only [Channel.wire?, Option.some.injEq] at hi
    subst hi
    refine ⟨?_, fun j hj => ?_⟩
    · show ((w.wires ++ [.scripted x])[w.wires.length]?).map Wire.closes = some (some 0)
      simp [Wire.closes, hx]
    exact Nat.lt_irrefl _ (hs.wire_lt hj)
  | start k host port app raw mirror => exact hs.start ho host port app raw mirror
  | stop k => exact hs.stop
  | shutdown k => exact hs.stop
  | install s => exact hs.installForeign ho

theorem Coherent.apply (hc : w.Coherent) {op : Op} (ho : op.Allowed w) : (w.apply env op).Coherent := by
  rw [← apply_world hc.sound.plain]
  exact ⟨hc.sound.apply ho, (inside_apply op).trans hc.outside⟩

theorem coherent_empty : World.empty.Coherent where
  sound :=
    have unlinked : ∀ k, World.empty.wireOf k = none := fun _ => rfl
    ⟨⟨fun _ => rfl, Or.inl ⟨rfl, rfl⟩⟩, fun _ => rfl, fun k _ h => by simp [unlinked k] at h,
      fun j _ _ h _ => by simp [unlinked j] at h, fun _ h => by cases h⟩
  outside := rfl

end World

/-- The worlds a caller reaches from the empty world by allowed operations. -/
inductive Reachable (env : Surroundings) : World → Prop
  | start : Reachable env World.empty
  | next {w : World} (op : Op) : Reachable env w → op.Allowed w → Reachable env (w.apply env op)

theorem Reachable.coherent {env : Surroundings} {w : World} (h : Reachable env w) : w.Coherent := by
  induction h with
  | start => exact World.coherent_empty
  | next op _ ho ih => exact ih.apply ho

/-- What `Forwarder.shaped` asks of each state. -/
theorem Forwarder.shaped_spec {f : Forwarder} (h : f.shaped = true) :
    f.state ≠ .restoring ∧
    (f.state = .uninstalled → f.backlog = none ∧ f.link = none ∧ f.previous = none) ∧
    (f.state = .earlyBuffering → f.backlog.isSome ∧ f.link = none) ∧
    (f.state = .active → f.backlog.isSome ∧ f.link.isSome) := by
  unfold shaped at h
  split at h <;> simp_all

/-- Between operations each forwarder of a reachable world holds the cells its state
calls for, and owns the slot only with the sink its state calls for. -/
theorem Reachable.forwarder_representation {env : Surroundings} {w : World} (h : Reachable env w) (k : Nat) :
    (w.fwd k).state ≠ .restoring ∧
    ((w.fwd k).state = .uninstalled →
      (w.fwd k).backlog = none ∧ (w.fwd k).link = none ∧ (w.fwd k).previous = none) ∧
    ((w.fwd k).state = .earlyBuffering → (w.fwd k).backlog.isSome ∧ (w.fwd k).link = none) ∧
    ((w.fwd k).state = .active → (w.fwd k).backlog.isSome ∧
      ∃ l, (w.fwd k).link = some l ∧ ∀ i, l.channel.wire? = some i → (w.wire i).map Wire.closes = some (some 0)) ∧
    (w.slot.provenance = .forwarder k →
      ((w.fwd k).state = .earlyBuffering ∧ w.slot.sink = .buffering k) ∨
        ((w.fwd k).state = .active ∧ w.slot.sink = .forwarding k)) ∧
    (w.slot.sink = .forwarding k → (w.fwd k).state = .active ∧ (w.fwd k).link.isSome) := by
  have hs := h.coherent.sound
  obtain ⟨restoring, unused, early, active⟩ := Forwarder.shaped_spec (hs.shaped k)
  refine ⟨restoring, unused, early, fun ha => ?_, hs.owner k, fun hf => ?_⟩
  · obtain ⟨hb, hl⟩ := active ha
    obtain ⟨l, hl⟩ := Option.isSome_iff_exists.mp hl
    exact ⟨hb, l, hl, fun i hi => hs.unclosed k i (by simp [World.wireOf, hl, hi])⟩
  · have ha := hs.active_of_forwarding hf
    exact ⟨ha, (active ha).2⟩

/-- A forwarder added to the empty world and set to buffer early is reachable
and holds the cells its state calls for. -/
theorem early_forwarder_represented :
    let env : Surroundings := ⟨Net.Machine.isolated, none⟩
    let w := (World.empty.apply env (.addForwarder (Config.defaults none))).apply env (.earlyBuffering 0 16)
    Reachable env w ∧
    ((w.fwd 0).state ≠ .restoring ∧
    ((w.fwd 0).state = .uninstalled →
      (w.fwd 0).backlog = none ∧ (w.fwd 0).link = none ∧ (w.fwd 0).previous = none) ∧
    ((w.fwd 0).state = .earlyBuffering → (w.fwd 0).backlog.isSome ∧ (w.fwd 0).link = none) ∧
    ((w.fwd 0).state = .active → (w.fwd 0).backlog.isSome ∧
      ∃ l, (w.fwd 0).link = some l ∧ ∀ i, l.channel.wire? = some i → (w.wire i).map Wire.closes = some (some 0)) ∧
    (w.slot.provenance = .forwarder 0 →
      ((w.fwd 0).state = .earlyBuffering ∧ w.slot.sink = .buffering 0) ∨
        ((w.fwd 0).state = .active ∧ w.slot.sink = .forwarding 0)) ∧
    (w.slot.sink = .forwarding 0 → (w.fwd 0).state = .active ∧ (w.fwd 0).link.isSome)) := by
  intro env w
  have h : Reachable env w := .next _ (.next _ .start trivial) Nat.zero_lt_one
  exact ⟨h, h.forwarder_representation 0⟩

end SyslogRelay.Relay
