import SyslogRelay.Proofs.Trail

/-!
What the operations of a trail leave alone.
-/

namespace SyslogRelay.Backlog

variable (b : Backlog) (task : Option String) (text : String)

theorem capacity_push : (b.push task text).1.capacity = b.capacity := by
  unfold push
  split <;> rfl

theorem capacity_append : (b.append task text).1.capacity = b.capacity := by
  unfold append
  split
  · rfl
  · split
    · split
      · rfl
      · exact capacity_push b task text
    · exact capacity_push b task text

theorem len_push_le : (b.push task text).1.len ≤ b.len + 1 := by
  unfold push len
  split <;> simp

theorem len_append_le : (b.append task text).1.len ≤ b.len + 1 := by
  unfold append
  split
  · exact Nat.le_succ _
  · split
    · rename_i newest hlast
      split
      · have hne : b.entries ≠ [] := fun h => by simp [h] at hlast
        simp only [len, List.length_append, List.length_dropLast, List.length_singleton]
        have := List.length_pos_iff.mpr hne
        omega
      · exact len_push_le b task text
    · exact len_push_le b task text

theorem capacity_drainOne : b.drainOne.1.capacity = b.capacity := by
  unfold drainOne
  split <;> rfl

theorem len_drainOne (e : Entry) (h : b.drainOne.2 = some e) : b.drainOne.1.len + 1 = b.len := by
  unfold drainOne at h ⊢
  split at h
  · cases h
  · rename_i rest hb
    simp [len, hb]

end SyslogRelay.Backlog

namespace SyslogRelay.Relay

/-- The slot holds a local sink installed by someone else, or forwarder `k`'s own
sink installed by it. -/
def Installed.Plain (i : Installed) : Prop :=
  (i.sink.isLocal ∧ i.provenance = .foreign) ∨
    ∃ k, (i.sink = .buffering k ∨ i.sink = .forwarding k) ∧ i.provenance = .forwarder k

namespace World

/-- Every forwarder falls back to a local sink, and the slot is plain. -/
structure Plain (w : World) : Prop where
  previous : ∀ k, (w.previousSink k).isLocal
  slot : w.slot.Plain

section Access

variable (w : World) (k j : Nat) (f : Forwarder → Forwarder)

theorem fwd_updateFwd :
    (w.updateFwd k f).fwd j = if k = j ∧ j < w.fwds.length then f (w.fwd j) else w.fwd j := by
  simp only [fwd, updateFwd, List.getD_eq_getElem?_getD, List.getElem?_modify]
  by_cases h : j < w.fwds.length
  · by_cases hk : k = j <;> simp [hk, h]
  · simp [h]

/-- A view of a forwarder that an update does not change is the same after it. -/
theorem fwd_updateFwd_view {α : Type} (g : Forwarder → α) (hg : ∀ x, g (f x) = g x) :
    g ((w.updateFwd k f).fwd j) = g (w.fwd j) := by
  rw [fwd_updateFwd]
  split <;> simp [hg]

@[simp] theorem backlog_updateFwd (hf : ∀ x, (f x).backlog = x.backlog) :
    ((w.updateFwd k f).fwd j).backlog = (w.fwd j).backlog :=
  fwd_updateFwd_view w k j f Forwarder.backlog hf

@[simp] theorem link_updateFwd (hf : ∀ x, (f x).link = x.link) :
    ((w.updateFwd k f).fwd j).link = (w.fwd j).link :=
  fwd_updateFwd_view w k j f Forwarder.link hf

@[simp] theorem state_updateFwd (hf : ∀ x, (f x).state = x.state) :
    ((w.updateFwd k f).fwd j).state = (w.fwd j).state :=
  fwd_updateFwd_view w k j f Forwarder.state hf

@[simp] theorem previousSink_updateFwd (hf : ∀ x, (f x).previous = x.previous) :
    (w.updateFwd k f).previousSink j = w.previousSink j := by
  simp only [previousSink, fwd_updateFwd_view w k j f Forwarder.previous hf]
  rfl

theorem previousSink_count (g : Stats → Stats) : (w.count k g).previousSink j = w.previousSink j :=
  previousSink_updateFwd w k j _ fun _ => rfl

theorem fwd_of_length_le (h : w.fwds.length ≤ k) : w.fwd k = default := by
  simp [fwd, List.getD_eq_getElem?_getD, List.getElem?_eq_none h]

theorem lt_length_of_backlog {b : Backlog} (h : (w.fwd k).backlog = some b) : k < w.fwds.length := by
  refine (Nat.lt_or_ge k w.fwds.length).resolve_right fun hk => ?_
  rw [fwd_of_length_le w k hk] at h
  cases h

theorem fwd_updateFwd_self (h : k < w.fwds.length) : (w.updateFwd k f).fwd k = f (w.fwd k) := by
  simp [fwd_updateFwd, h]

@[simp] theorem slot_updateFwd : (w.updateFwd k f).slot = w.slot := rfl
@[simp] theorem wires_updateFwd : (w.updateFwd k f).wires = w.wires := rfl
@[simp] theorem wire_updateFwd (i : Nat) : (w.updateFwd k f).wire i = w.wire i := rfl
@[simp] theorem fallback_updateFwd : (w.updateFwd k f).fallback = w.fallback := rfl

@[simp] theorem length_updateFwd : (w.updateFwd k f).fwds.length = w.fwds.length := by
  simp [updateFwd]

end Access

section Keep

variable (w : World) (s : Sink) (r : LogRecord)

@[simp] theorem keep_fwds : (w.keep s r).fwds = w.fwds := by cases s <;> rfl
@[simp] theorem keep_slot : (w.keep s r).slot = w.slot := by cases s <;> rfl
@[simp] theorem keep_fallback : (w.keep s r).fallback = w.fallback := by cases s <;> rfl
@[simp] theorem keep_wires : (w.keep s r).wires = w.wires := by cases s <;> rfl
@[simp] theorem keep_inside : (w.keep s r).inside = w.inside := by cases s <;> rfl

theorem keep_fwd (k : Nat) : (w.keep s r).fwd k = w.fwd k := by simp [fwd]

theorem keep_previousSink (k : Nat) : (w.keep s r).previousSink k = w.previousSink k := by
  simp [previousSink, keep_fwd]

end Keep

section Inside

variable (w : World) (b : Bool)

@[simp] theorem fwd_inside (k : Nat) : ({ w with inside := b } : World).fwd k = w.fwd k := rfl
@[simp] theorem previousSink_inside (k : Nat) :
    ({ w with inside := b } : World).previousSink k = w.previousSink k := rfl

@[simp] theorem updateFwd_inside (k : Nat) (f : Forwarder → Forwarder) :
    (w.updateFwd k f).inside = w.inside := rfl
@[simp] theorem install_inside (k : Nat) (s : Sink) : (w.install k s).inside = w.inside := by
  by_cases h : w.slot.provenance.isForwarder = true <;> simp [install, Installed.swap, h]
@[simp] theorem settle_inside (k : Nat) : (w.settle k).inside = w.inside := rfl
@[simp] theorem restoreIf_inside (k : Nat) (s : Sink) : (w.restoreIf k s).1.inside = w.inside := rfl
@[simp] theorem flush_inside (s : Sink) : (w.flush s).inside = w.inside := by
  unfold flush
  split <;> rfl

end Inside

section GiveBack

variable (w : World) (k : Nat) (s : Sink)

@[simp] theorem flush_fwds : (w.flush s).fwds = w.fwds := by unfold flush; split <;> rfl
@[simp] theorem flush_slot : (w.flush s).slot = w.slot := by unfold flush; split <;> rfl
@[simp] theorem flush_wires : (w.flush s).wires = w.wires := by unfold flush; split <;> rfl
@[simp] theorem flush_fallback : (w.flush s).fallback = w.fallback := by unfold flush; split <;> rfl
@[simp] theorem restoreIf_fwds : (w.restoreIf k s).1.fwds = w.fwds := rfl
@[simp] theorem restoreIf_wires : (w.restoreIf k s).1.wires = w.wires := rfl
@[simp] theorem restoreIf_fallback : (w.restoreIf k s).1.fallback = w.fallback := rfl
@[simp] theorem restoreIf_slot : (w.restoreIf k s).1.slot = (w.slot.restoreIf k s).1 := rfl
@[simp] theorem fwd_flush (j : Nat) : (w.flush s).fwd j = w.fwd j := by simp [fwd]
@[simp] theorem fwd_restoreIf (j : Nat) : (w.restoreIf k s).1.fwd j = w.fwd j := rfl
@[simp] theorem wire_flush (i : Nat) : (w.flush s).wire i = w.wire i := by simp [wire]
@[simp] theorem wire_restoreIf (i : Nat) : (w.restoreIf k s).1.wire i = w.wire i := rfl
@[simp] theorem slot_settle : (w.settle k).slot = w.slot := rfl
@[simp] theorem wire_settle (i : Nat) : (w.settle k).wire i = w.wire i := rfl

theorem fwd_settle (j : Nat) :
    (w.settle k).fwd j = if k = j ∧ j < w.fwds.length then
      { w.fwd j with previous := none, mirror := (w.fwd j).config.mirror, state := .uninstalled }
    else w.fwd j :=
  fwd_updateFwd w k j _

theorem fwd_settle_of_ne {j : Nat} (h : j ≠ k) : (w.settle k).fwd j = w.fwd j := by
  rw [fwd_settle, if_neg (fun h' => h h'.1.symm)]

end GiveBack

section CloseChannel

variable (w : World) (c : Channel)

@[simp] theorem closeChannel_fwds : (w.closeChannel c).fwds = w.fwds := by cases c <;> rfl
@[simp] theorem closeChannel_slot : (w.closeChannel c).slot = w.slot := by cases c <;> rfl
@[simp] theorem closeChannel_fallback : (w.closeChannel c).fallback = w.fallback := by cases c <;> rfl
@[simp] theorem closeChannel_inside : (w.closeChannel c).inside = w.inside := by cases c <;> rfl

theorem closeChannel_fwd (k : Nat) : (w.closeChannel c).fwd k = w.fwd k := by simp [fwd]

theorem closeChannel_previousSink (k : Nat) : (w.closeChannel c).previousSink k = w.previousSink k := by
  simp [previousSink, closeChannel_fwd]

end CloseChannel

end World

namespace Trail

@[simp] theorem idle_world (w : World) : (idle w).world = w := rfl
@[simp] theorem emit_world (w : World) (e : Effect) : (emit w e).world = w := rfl
@[simp] theorem emit_effects (w : World) (e : Effect) : (emit w e).effects = [e] := rfl
@[simp] theorem idle_effects (w : World) : (idle w).effects = [] := rfl
@[simp] theorem after_world (es : List Effect) (t : Trail) : (t.after es).world = t.world := rfl
@[simp] theorem after_effects (es : List Effect) (t : Trail) : (t.after es).effects = es ++ t.effects :=
  rfl
@[simp] theorem bind_world (t : Trail) (f : World → Trail) : (t.bind f).world = (f t.world).world := rfl
@[simp] theorem bind_effects (t : Trail) (f : World → Trail) :
    (t.bind f).effects = t.effects ++ (f t.world).effects := rfl
@[simp] theorem notice_world (w : World) (k : Nat) (s : Sink) (e : Net.LinkError) :
    (notice w k s e).world = (fallBack w k s (World.disabledNotice e)).world := rfl
@[simp] theorem within_world (t : Trail) (b : Bool) :
    (t.within b).world = { t.world with inside := b } := rfl

end Trail

/-- How often the sending end of a scripted wire was closed; a listener has no
sending end. -/
def Wire.closes : Wire → Option Nat
  | .scripted s => some s.closes
  | .listener _ _ => none

/-- The records a scripted wire logs on each attempt; a listener logs none. -/
def Wire.onSend : Wire → List LogRecord
  | .scripted s => s.onSend
  | .listener _ _ => []

theorem Wire.onSend_deliver (port : Nat) (payload : String) (x : Wire) :
    (x.deliver port payload).onSend = x.onSend := by
  cases x with
  | scripted s => rfl
  | listener p got =>
    cases p with
    | none => rfl
    | some p => by_cases h : p = port <;> simp [Wire.deliver, Wire.onSend, h]

theorem Wire.closes_deliver (port : Nat) (payload : String) (x : Wire) :
    (x.deliver port payload).closes = x.closes := by
  cases x with
  | scripted s => rfl
  | listener p got =>
    cases p with
    | none => rfl
    | some p => by_cases h : p = port <;> simp [Wire.deliver, Wire.closes, h]

/-- What stays of a forwarder while records pass through it: everything but the
entries of its backlog, its counters, and its boot signal and markers. -/
def Forwarder.Steady (f g : Forwarder) : Prop :=
  g.config = f.config ∧ g.state = f.state ∧ g.previous = f.previous ∧ g.link = f.link ∧
    g.mirror = f.mirror ∧ g.backlog.map Backlog.capacity = f.backlog.map Backlog.capacity ∧
    g.dropped = f.dropped

theorem Forwarder.Steady.refl (f : Forwarder) : f.Steady f := by
  simp [Forwarder.Steady]

theorem Forwarder.Steady.trans {f g h : Forwarder} (hfg : f.Steady g) (hgh : g.Steady h) :
    f.Steady h := by
  obtain ⟨c, s, p, l, m, b, d⟩ := hfg
  obtain ⟨c', s', p', l', m', b', d'⟩ := hgh
  exact ⟨c'.trans c, s'.trans s, p'.trans p, l'.trans l, m'.trans m, b'.trans b, d'.trans d⟩

namespace World

/-- `v` is `w` after records were kept, deferred or counted and datagrams sent:
the slot, the flag and every forwarder's state and cells are as they were, and
no wire was closed or changed what it logs. -/
structure Calm (w v : World) : Prop where
  slot : v.slot = w.slot
  fallback : v.fallback = w.fallback
  inside : v.inside = w.inside
  length : v.fwds.length = w.fwds.length
  steady : ∀ k, (w.fwd k).Steady (v.fwd k)
  wireCount : v.wires.length = w.wires.length
  closes : ∀ i, (v.wire i).map Wire.closes = (w.wire i).map Wire.closes
  onSend : ∀ i, (v.wire i).map Wire.onSend = (w.wire i).map Wire.onSend

namespace Calm

variable {u v w : World}

theorem refl (w : World) : Calm w w :=
  ⟨rfl, rfl, rfl, rfl, fun _ => Forwarder.Steady.refl _, rfl, fun _ => rfl, fun _ => rfl⟩

theorem trans (h : Calm u v) (h' : Calm v w) : Calm u w where
  slot := h'.slot.trans h.slot
  fallback := h'.fallback.trans h.fallback
  inside := h'.inside.trans h.inside
  length := h'.length.trans h.length
  steady k := (h.steady k).trans (h'.steady k)
  wireCount := h'.wireCount.trans h.wireCount
  closes i := (h'.closes i).trans (h.closes i)
  onSend i := (h'.onSend i).trans (h.onSend i)

theorem previousSink (h : Calm w v) (k : Nat) : v.previousSink k = w.previousSink k := by
  simp only [World.previousSink, (h.steady k).2.2.1, h.fallback]

theorem plain (h : Calm w v) (hp : w.Plain) : v.Plain where
  previous k := h.previousSink k ▸ hp.previous k
  slot := h.slot ▸ hp.slot

end Calm

namespace Plain

variable {w : World}

theorem fallback_local (hp : w.Plain) : w.fallback.isLocal := by
  have h := hp.previous w.fwds.length
  simpa [World.previousSink, World.fwd, List.getD_eq_getElem?_getD, Forwarder.new,
    show (default : Forwarder) = Forwarder.new (Config.defaults none) from rfl] using h

theorem updateFwd (hp : w.Plain) (k : Nat) {f : Forwarder → Forwarder}
    (hf : ∀ x, (f x).previous = x.previous) : (w.updateFwd k f).Plain where
  previous j := by rw [previousSink_updateFwd w k j f hf]; exact hp.previous j
  slot := hp.slot

theorem settle (hp : w.Plain) (k : Nat) : (w.settle k).Plain where
  previous j := by
    simp only [World.settle, previousSink, fwd_updateFwd]
    split
    · exact hp.fallback_local
    · exact hp.previous j
  slot := hp.slot

theorem flush (hp : w.Plain) (s : Sink) : (w.flush s).Plain := by
  unfold World.flush
  split
  · exact ⟨hp.previous, hp.slot⟩
  · exact hp

theorem inside (hp : w.Plain) (b : Bool) : ({ w with inside := b } : World).Plain := ⟨hp.previous, hp.slot⟩

theorem closeChannel (hp : w.Plain) (c : Channel) : (w.closeChannel c).Plain where
  previous j := by rw [closeChannel_previousSink]; exact hp.previous j
  slot := by rw [closeChannel_slot]; exact hp.slot

theorem restoreIf (hp : w.Plain) (k : Nat) {s : Sink} (hs : s.isLocal) : (w.restoreIf k s).1.Plain := by
  simp only [World.restoreIf, Installed.restoreIf]
  split
  · exact ⟨hp.previous, Or.inl ⟨hs, rfl⟩⟩
  · exact hp

theorem install (hp : w.Plain) (k : Nat) {s : Sink} (hs : s = .buffering k ∨ s = .forwarding k) :
    (w.install k s).Plain := by
  have swapped : ({ w with slot := ⟨s, .forwarder k⟩ } : World).Plain :=
    ⟨hp.previous, Or.inr ⟨k, hs, rfl⟩⟩
  cases hforeign : w.slot.provenance.isForwarder
  · have kept : (w.install k s) = ({ w with slot := ⟨s, .forwarder k⟩ } : World).updateFwd k
        fun f => { f with previous := some w.slot.sink } := by
      simp [World.install, Installed.swap, hforeign]
    rw [kept]
    refine ⟨fun j => ?_, swapped.slot⟩
    simp only [previousSink, fwd_updateFwd]
    split
    · rcases hp.slot with ⟨hlocal, _⟩ | ⟨j', _, hprov⟩
      · exact hlocal
      · simp [hprov, Provenance.isForwarder] at hforeign
    · exact hp.previous j
  · have kept : (w.install k s) = { w with slot := ⟨s, .forwarder k⟩ } := by
      simp [World.install, Installed.swap, hforeign]
    rw [kept]
    exact swapped

/-- Giving the slot back after a forwarder has written locally keeps a world plain. -/
theorem giveBack (hp : w.Plain) {s : Sink} (hs : s.isLocal) (k : Nat) :
    (((w.flush s).restoreIf k s).1.settle k).Plain :=
  ((hp.flush s).restoreIf k hs).settle k

end Plain

section CalmSteps

variable (w : World)

theorem calm_keep (s : Sink) (r : LogRecord) : Calm w (w.keep s r) where
  slot := keep_slot w s r
  fallback := keep_fallback w s r
  inside := keep_inside w s r
  length := by simp
  steady j := by rw [keep_fwd]; exact Forwarder.Steady.refl _
  wireCount := by simp
  closes i := by simp [wire]
  onSend i := by simp [wire]

theorem calm_updateFwd (k : Nat) {f : Forwarder → Forwarder} (hf : (w.fwd k).Steady (f (w.fwd k))) :
    Calm w (w.updateFwd k f) where
  slot := rfl
  fallback := rfl
  inside := rfl
  length := length_updateFwd w k f
  steady j := by
    rw [fwd_updateFwd]
    split
    · rename_i h
      exact h.1 ▸ hf
    · exact Forwarder.Steady.refl _
  wireCount := rfl
  closes _ := rfl
  onSend _ := rfl

theorem calm_count (k : Nat) (g : Stats → Stats) : Calm w (w.count k g) :=
  calm_updateFwd w k (by simp [Forwarder.Steady])

theorem calm_updateWire (i : Nat) {g : Wire → Wire}
    (hg : ∀ x, w.wire i = some x → (g x).closes = x.closes ∧ (g x).onSend = x.onSend) :
    Calm w (w.updateWire i g) where
  slot := rfl
  fallback := rfl
  inside := rfl
  length := rfl
  steady _ := Forwarder.Steady.refl _
  wireCount := by simp [updateWire]
  closes j := by
    simp only [wire, updateWire, List.getElem?_modify]
    by_cases hij : i = j
    · subst hij
      cases hx : w.wires[i]? with
      | none => rfl
      | some x => simp [(hg x hx).1]
    · simp [hij]
  onSend j := by
    simp only [wire, updateWire, List.getElem?_modify]
    by_cases hij : i = j
    · subst hij
      cases hx : w.wires[i]? with
      | none => rfl
      | some x => simp [(hg x hx).2]
    · simp [hij]

/-- Taking the oldest entry out of a backlog, and counting it, is calm. -/
theorem calm_drainOne (k : Nat) {b0 b : Backlog} {e : Entry} (hb : (w.fwd k).backlog = some b0)
    (hd : b0.drainOne = (b, some e)) :
    Calm w ((w.updateFwd k fun f => { f with backlog := some b }).count k
      fun s => { s with drained := s.drained + 1 }) := by
  refine (calm_updateFwd w k ?_).trans (calm_count _ k _)
  have kept : b.capacity = b0.capacity := by
    simpa [hd] using Backlog.capacity_drainOne b0
  simp [Forwarder.Steady, hb, kept]

/-- The same, from the drain loop's own test of the backlog. -/
theorem calm_drainOne_of_map (k : Nat) {b : Backlog} {e : Entry}
    (hd : (w.fwd k).backlog.map Backlog.drainOne = some (b, some e)) :
    Calm w ((w.updateFwd k fun f => { f with backlog := some b }).count k
      fun s => { s with drained := s.drained + 1 }) := by
  obtain ⟨b0, hb0, hdrain⟩ := Option.map_eq_some_iff.mp hd
  exact calm_drainOne w k hb0 hdrain

theorem calm_countSent (k retries : Nat) : Calm w (w.countSent k retries) := by
  have hc := calm_count w k fun s => { s with retried := s.retried + retries, sent := s.sent + 1 }
  simp only [countSent]
  split
  · exact hc.trans (calm_updateFwd _ k (by simp [Forwarder.Steady, Forwarder.markBoot]))
  · exact hc

theorem calm_flush (s : Sink) : Calm w (w.flush s) := by
  unfold flush
  split
  · exact ⟨rfl, rfl, rfl, rfl, fun _ => Forwarder.Steady.refl _, rfl, fun _ => rfl, fun _ => rfl⟩
  · exact Calm.refl w

theorem calm_deliver (port : Nat) (payload : String) :
    Calm w { w with wires := w.wires.map (Wire.deliver port payload) } where
  slot := rfl
  fallback := rfl
  inside := rfl
  length := rfl
  steady _ := Forwarder.Steady.refl _
  wireCount := by simp
  closes i := by
    simp only [wire, List.getElem?_map]
    cases w.wires[i]? with
    | none => rfl
    | some x => simp [Wire.closes_deliver]
  onSend i := by
    simp only [wire, List.getElem?_map]
    cases w.wires[i]? with
    | none => rfl
    | some x => simp [Wire.onSend_deliver]

end CalmSteps

end World

namespace Trail

section Calm

variable (w : World) (k : Nat)

theorem calm_fallBack (s : Sink) (r : LogRecord) : World.Calm w (fallBack w k s r).world :=
  (World.calm_count w k _).trans (World.calm_keep _ s r)

theorem calm_notice (s : Sink) (e : Net.LinkError) : World.Calm w (notice w k s e).world :=
  calm_fallBack w k s _

theorem calm_replay (s : Sink) (es : List Entry) : World.Calm w (replay w k s es).world := by
  induction es generalizing w with
  | nil => exact World.Calm.refl w
  | cons e es ih => exact (calm_fallBack w k s _).trans (ih _)

theorem calm_echo (r : LogRecord) : World.Calm w (echo w k r).world := by
  unfold echo
  split
  · exact World.calm_keep w _ r
  · exact World.Calm.refl w

theorem calm_defer (r : LogRecord) : World.Calm w (defer w k r).world := by
  unfold defer
  dsimp only
  split
  · exact calm_fallBack w k _ r
  · rename_i b hb
    split
    · exact calm_fallBack w k _ r
    · rename_i b' out _ heq
      have hcap : b'.capacity = b.capacity := by
        have := Backlog.capacity_append b r.task (Text.cutBytes r.text maxLineBytes)
        rwa [heq] at this
      have stored : World.Calm w (w.updateFwd k fun f => { f with backlog := some b' }) :=
        World.calm_updateFwd w k (by simp [Forwarder.Steady, hb, hcap])
      have evicted (v : World) : World.Calm v
          (if out = .evicted then v.count k fun s => { s with evicted := s.evicted + 1 } else v) := by
        split
        · exact World.calm_count v k _
        · exact World.Calm.refl v
      rw [after_world]
      exact ((stored.trans (evicted _)).trans (World.calm_count _ k _)).trans (calm_echo _ k r)

theorem calm_dispatchInside (r : LogRecord) : World.Calm w (dispatchInside w r).world := by
  unfold dispatchInside
  split
  · exact calm_defer w _ r
  · exact calm_defer w _ r
  · exact World.calm_keep w _ r

theorem calm_settleSend (v : World) (i : Nat) (p : String) : World.Calm v (v.settleSend i p).1 := by
  unfold World.settleSend
  split
  · rename_i s hs
    have hclose : s.next.2.closes = s.closes ∧ s.next.2.onSend = s.onSend := by
      unfold ScriptedWire.next
      split <;> exact ⟨rfl, rfl⟩
    split
    · rename_i e s' heq
      apply World.calm_updateWire v i
      intro x hx
      rw [hs] at hx
      cases hx
      simp only [Wire.closes, Wire.onSend, ← hclose.1, ← hclose.2, heq, and_self]
    · rename_i s' heq
      apply World.calm_updateWire v i
      intro x hx
      rw [hs] at hx
      cases hx
      simp only [Wire.closes, Wire.onSend, ← hclose.1, ← hclose.2, heq, and_self]
  · exact World.Calm.refl v

theorem calm_dispatchAllInside (rs : List LogRecord) : World.Calm w (dispatchAllInside w rs).world := by
  induction rs generalizing w with
  | nil => exact World.Calm.refl w
  | cons r rs ih =>
    rw [dispatchAllInside, bind_world]
    exact (calm_dispatchInside w r).trans (ih _)

theorem calm_logAttempt (s : ScriptedWire) : World.Calm w (logAttempt w s).world :=
  calm_dispatchAllInside w s.onSend

theorem calm_sendScripted (i : Nat) (p : String) : World.Calm w (sendScripted w i p).1.world := by
  unfold sendScripted
  split
  · rename_i s hs
    have attempt : World.Calm w (w.updateWire i fun _ => .scripted { s with attempts := s.attempts + 1 }) := by
      apply World.calm_updateWire w i
      intro x hx
      rw [hs] at hx
      cases hx
      exact ⟨rfl, rfl⟩
    exact (attempt.trans (calm_logAttempt _ s)).trans (calm_settleSend _ i p)
  · exact World.Calm.refl w

theorem calm_transmit (env : Surroundings) (link : Link) (task : Option String) (text : String) :
    World.Calm w (transmit env w k link task text).1.world := by
  unfold transmit
  dsimp only
  split
  · rename_i i _
    split
    · rename_i t heq
      have sent := calm_sendScripted w i (link.encoder.encode text task)
      rw [heq] at sent
      exact sent.trans (World.calm_countSent _ k _)
    · rename_i t e heq
      have sent := calm_sendScripted w i (link.encoder.encode text task)
      rw [heq] at sent
      exact sent
  · split
    · exact (World.calm_deliver w _ _).trans (World.calm_countSent _ k _)
    · exact World.Calm.refl w

theorem calm_announce (env : Surroundings) (e : Diagnostic.Event) : World.Calm w (announce env w e).world := by
  unfold announce
  split
  · split
    · exact calm_dispatchInside w _
    · exact World.Calm.refl w
  · exact World.Calm.refl w

theorem calm_announceAll (env : Surroundings) (es : List Diagnostic.Event) :
    World.Calm w (announceAll env w es).world := by
  induction es generalizing w with
  | nil => exact World.Calm.refl w
  | cons e es ih => exact (calm_announce w env e).trans (ih _)

theorem calm_drainTaken (env : Surroundings) (previous : Sink) (link : Link) (es : List Entry) :
    World.Calm w (drainTaken env w k previous link es).1.world := by
  induction es generalizing w link with
  | nil => exact World.Calm.refl w
  | cons e es ih =>
    have counted := World.calm_count w k fun s => { s with drained := s.drained + 1 }
    have sent := calm_transmit (w.count k fun s => { s with drained := s.drained + 1 }) k env link e.task e.text
    simp only [drainTaken]
    generalize transmit env _ k link e.task e.text = out at sent
    rcases out with ⟨t, link', _ | ⟨⟩⟩ <;> dsimp only at sent ⊢
    · exact counted.trans (sent.trans ((World.calm_count _ k _).trans (calm_fallBack _ k previous _)))
    · exact counted.trans (sent.trans (ih _ link'))

/-- What a drain leaves of a taken backlog is a part of it. -/
theorem length_drainTaken_le (env : Surroundings) (previous : Sink) (link : Link) (es : List Entry) :
    (drainTaken env w k previous link es).2.1.length ≤ es.length := by
  induction es generalizing w link with
  | nil => simp [drainTaken]
  | cons e es ih =>
    simp only [drainTaken]
    generalize transmit env _ k link e.task e.text = out
    rcases out with ⟨t, link', _ | ⟨⟩⟩ <;> dsimp only
    · simp
    · exact Nat.le_succ_of_le (ih _ link')

end Calm

/-! ### What records passing through leave of the backlogs -/

section Backlogs

variable (w : World) (k j : Nat)

theorem backlog_count (g : Stats → Stats) : ((w.count k g).fwd j).backlog = (w.fwd j).backlog :=
  World.fwd_updateFwd_view w k j _ Forwarder.backlog fun _ => rfl

/-- A step of the drain loop leaves the backlog it took the oldest entry from. -/
theorem backlog_drained {b : Backlog} {e : Entry} (hd : (w.fwd k).backlog.map Backlog.drainOne = some (b, some e)) :
    (((w.updateFwd k fun f => { f with backlog := some b }).count k
      fun s => { s with drained := s.drained + 1 }).fwd k).backlog = some b := by
  obtain ⟨b0, hb0, -⟩ := Option.map_eq_some_iff.mp hd
  rw [backlog_count, World.fwd_updateFwd_self w k _ (World.lt_length_of_backlog w k hb0)]

theorem backlog_countSent (retries : Nat) :
    ((w.countSent k retries).fwd j).backlog = (w.fwd j).backlog := by
  simp only [World.countSent]
  split
  · rw [World.fwd_updateFwd_view _ k j (fun f => f.markBoot.1) Forwarder.backlog
      (by simp [Forwarder.markBoot]), backlog_count]
  · exact backlog_count w k j _

theorem backlog_fallBack (s : Sink) (r : LogRecord) :
    ((fallBack w k s r).world.fwd j).backlog = (w.fwd j).backlog := by
  simp only [fallBack, World.keep_fwd, backlog_count]

theorem backlog_echo (r : LogRecord) : ((echo w k r).world.fwd j).backlog = (w.fwd j).backlog := by
  unfold echo
  split
  · simp only [World.keep_fwd]
  · rfl

theorem fwds_settleSend (v : World) (i : Nat) (p : String) : (v.settleSend i p).1.fwds = v.fwds := by
  unfold World.settleSend
  split
  · split <;> rfl
  · rfl

end Backlogs

end Trail

end SyslogRelay.Relay
