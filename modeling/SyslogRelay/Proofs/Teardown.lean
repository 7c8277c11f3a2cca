import SyslogRelay.Proofs.Lifecycle

/-!
A send that fails for good tears a forwarder down once (`log_tears_down_once`).
-/

namespace SyslogRelay.Relay

namespace ScriptedWire

/-- The outcome of the attempt `m` places ahead: the planned ones first, then
the fault. -/
def outcome (s : ScriptedWire) (m : Nat) : Option Net.LinkError := s.planned[m]?.getD s.fault

/-- The wire after one attempt to send `p`. -/
def attempt (s : ScriptedWire) (p : String) : ScriptedWire :=
  match ({ s with attempts := s.attempts + 1 } : ScriptedWire).next with
  | (some _, s') => s'
  | (none, s') => { s' with payloads := s'.payloads ++ [p], retries := s'.retries + s'.retriesPerSend }

variable (s : ScriptedWire) (p : String)

/-- An attempt takes the first outcome and leaves the rest planned. -/
theorem next_eq : s.next = (s.outcome 0, { s with planned := s.planned.tail }) := by
  unfold next outcome
  cases h : s.planned with
  | nil =>
    simp only [List.getElem?_nil, Option.getD_none, List.tail_nil]
    rw [← h]
  | cons o rest => rfl

@[simp] theorem outcome_attempts (n m : Nat) : ({ s with attempts := n } : ScriptedWire).outcome m = s.outcome m :=
  rfl

theorem outcome_tail (m : Nat) :
    ({ s with planned := s.planned.tail } : ScriptedWire).outcome m = s.outcome (m + 1) := by
  cases h : s.planned <;> simp [outcome, h]

@[simp] theorem attempts_attempt : (s.attempt p).attempts = s.attempts + 1 := by
  rcases h : s.outcome 0 with _ | e <;> simp [attempt, next_eq, h]

@[simp] theorem closes_attempt : (s.attempt p).closes = s.closes := by
  rcases h : s.outcome 0 with _ | e <;> simp [attempt, next_eq, h]

@[simp] theorem onSend_attempt : (s.attempt p).onSend = s.onSend := by
  rcases h : s.outcome 0 with _ | e <;> simp [attempt, next_eq, h]

theorem outcome_attempt (m : Nat) : (s.attempt p).outcome m = s.outcome (m + 1) := by
  rw [← outcome_tail]
  rcases h : s.outcome 0 with _ | e <;> simp [attempt, next_eq, h] <;> rfl

theorem payloads_attempt_of_none (h : s.outcome 0 = none) : (s.attempt p).payloads = s.payloads ++ [p] := by
  simp [attempt, next_eq, h]

theorem payloads_attempt_of_some {e : Net.LinkError} (h : s.outcome 0 = some e) :
    (s.attempt p).payloads = s.payloads := by
  simp [attempt, next_eq, h]

end ScriptedWire

namespace World

/-- What the local sinks hold: the console's records, each recorder's, and how
often the console was flushed. -/
def sinks (w : World) : List LogRecord × List (List LogRecord) × Nat := (w.console, w.recorders, w.consoleFlushes)

/-- The records a local sink holds, when the world has it. -/
def received (w : World) : Sink → Option (List LogRecord)
  | .console => some w.console
  | .recorder i => w.recorders[i]?
  | _ => none

section Sinks

variable (w : World)

@[simp] theorem sinks_updateFwd (k : Nat) (f : Forwarder → Forwarder) : (w.updateFwd k f).sinks = w.sinks := rfl
@[simp] theorem sinks_updateWire (i : Nat) (g : Wire → Wire) : (w.updateWire i g).sinks = w.sinks := rfl
@[simp] theorem sinks_inside (b : Bool) : ({ w with inside := b } : World).sinks = w.sinks := rfl
@[simp] theorem sinks_restoreIf (k : Nat) (s : Sink) : (w.restoreIf k s).1.sinks = w.sinks := rfl
@[simp] theorem sinks_settle (k : Nat) : (w.settle k).sinks = w.sinks := rfl

@[simp] theorem sinks_countSent (k n : Nat) : (w.countSent k n).sinks = w.sinks := by
  simp only [countSent]
  split <;> rfl

@[simp] theorem sinks_closeChannel (c : Channel) : (w.closeChannel c).sinks = w.sinks := by
  cases c <;> rfl

theorem received_of_sinks {v : World} (h : v.sinks = w.sinks) (s : Sink) : v.received s = w.received s := by
  simp only [sinks, Prod.mk.injEq] at h
  cases s <;> simp [received, h.1, h.2.1]

theorem consoleFlushes_of_sinks {v : World} (h : v.sinks = w.sinks) : v.consoleFlushes = w.consoleFlushes := by
  simp only [sinks, Prod.mk.injEq] at h
  exact h.2.2

/-- A local sink that keeps a record holds it last. -/
theorem received_keep {s : Sink} (hs : s.isLocal = true) (r : LogRecord) :
    (w.keep s r).received s = (w.received s).map (· ++ [r]) := by
  cases s with
  | console => rfl
  | recorder i => simp [keep, received]
  | reactive i | buffering i | forwarding i => simp [Sink.isLocal] at hs

@[simp] theorem consoleFlushes_keep (s : Sink) (r : LogRecord) : (w.keep s r).consoleFlushes = w.consoleFlushes := by
  cases s <;> rfl

theorem received_flush (s p : Sink) : (w.flush s).received p = w.received p := by
  unfold flush
  split <;> rfl

theorem consoleFlushes_flush (s : Sink) :
    (w.flush s).consoleFlushes = w.consoleFlushes + if s = .console then 1 else 0 := by
  unfold flush
  split <;> simp_all

end Sinks

end World

namespace Trail

section Writes

variable (w : World) (k : Nat) (P : Sink)

@[simp] theorem wires_fallBack (r : LogRecord) : (fallBack w k P r).world.wires = w.wires := by
  simp [fallBack, World.count]

theorem failures_fallBack (j : Nat) (r : LogRecord) :
    ((fallBack w k P r).world.fwd j).stats.failures = (w.fwd j).stats.failures := by
  simp only [fallBack, World.keep_fwd, World.count]
  exact World.fwd_updateFwd_view _ k j _ (fun f => f.stats.failures) fun _ => rfl

@[simp] theorem consoleFlushes_fallBack (r : LogRecord) :
    (fallBack w k P r).world.consoleFlushes = w.consoleFlushes := by
  simp [fallBack, World.count, World.updateFwd]

theorem received_fallBack (hP : P.isLocal = true) (r : LogRecord) :
    (fallBack w k P r).world.received P = (w.received P).map (· ++ [r]) := by
  simp only [fallBack]
  rw [World.received_keep _ hP]
  rfl

end Writes

end Trail

namespace World

variable (w : World) (i : Nat)

theorem wire_updateWire_self (g : Wire → Wire) : (w.updateWire i g).wire i = (w.wire i).map g := by
  simp [wire, updateWire]

theorem updateWire_updateWire (f g : Wire → Wire) : (w.updateWire i f).updateWire i g = w.updateWire i (g ∘ f) := by
  simp [updateWire, List.modify_modify_eq]

theorem failures_countSent (k n j : Nat) : ((w.countSent k n).fwd j).stats.failures = (w.fwd j).stats.failures := by
  have counted : ((w.count k fun s => { s with retried := s.retried + n, sent := s.sent + 1 }).fwd j).stats.failures =
      (w.fwd j).stats.failures :=
    fwd_updateFwd_view _ k j _ (fun f => f.stats.failures) fun _ => rfl
  simp only [countSent]
  split
  · rw [fwd_updateFwd_view _ k j _ (fun f => f.stats.failures) fun f => by simp [Forwarder.markBoot], counted]
  · exact counted

end World

namespace Trail

section Send

variable {w : World} {i : Nat} {s : ScriptedWire}

/-- A send over a scripted wire that logs nothing is one attempt. -/
theorem sendScripted_quiet (hw : w.wire i = some (.scripted s)) (hq : s.onSend = []) (p : String) :
    sendScripted w i p =
      (idle (w.updateWire i fun _ => .scripted (s.attempt p)), (s.outcome 0).elim (.ok ()) .error) := by
  have first : ({ s with attempts := s.attempts + 1 } : ScriptedWire).next.1 = s.outcome 0 := by
    rw [ScriptedWire.next_eq]
    rfl
  have quiet : ∀ v, logAttempt v s = idle v := fun v => by simp [logAttempt, hq, dispatchAllInside]
  simp only [sendScripted, hw, quiet, idle_world, idle_effects, World.settleSend,
    World.wire_updateWire_self, Option.map_some, ScriptedWire.attempt]
  generalize ({ s with attempts := s.attempts + 1 } : ScriptedWire).next = q at first ⊢
  rcases q with ⟨_ | e, s'⟩ <;> simp only at first <;> rw [← first] <;>
    simp [World.updateWire_updateWire, Function.comp_def, idle]

variable {l : Link} {k : Nat}

/-- A send that goes through makes one attempt, delivers the payload and is counted. -/
theorem transmit_sent (hl : l.channel = .wire i) (hw : w.wire i = some (.scripted s)) (hq : s.onSend = [])
    (ho : s.outcome 0 = none) (env : Surroundings) (task : Option String) (text : String) :
    ∃ n, transmit env w k l task text =
      (⟨(w.updateWire i fun _ => .scripted (s.attempt (l.encoder.encode text task))).countSent k n,
        [.sent k task text]⟩, l, .ok ()) := by
  simp only [transmit, hl, sendScripted_quiet hw hq, ho, Option.elim, idle_world, idle_effects, List.nil_append]
  exact ⟨_, rfl⟩

/-- A send that fails makes one attempt and changes nothing else. -/
theorem transmit_refused (hl : l.channel = .wire i) (hw : w.wire i = some (.scripted s)) (hq : s.onSend = [])
    {e : Net.LinkError} (ho : s.outcome 0 = some e) (env : Surroundings) (task : Option String) (text : String) :
    transmit env w k l task text =
      (⟨w.updateWire i fun _ => .scripted (s.attempt (l.encoder.encode text task)), [.refused k task text e]⟩, l,
        .error e) := by
  simp only [transmit, hl, sendScripted_quiet hw hq, ho, Option.elim, idle_world, idle_effects, List.nil_append]

end Send

end Trail

namespace World

theorem wire_countSent (w : World) (k n i : Nat) : (w.countSent k n).wire i = w.wire i := by
  simp only [countSent]
  split <;> rfl

theorem failures_updateFwd (w : World) (k j : Nat) (f : Forwarder → Forwarder)
    (hf : ∀ x, (f x).stats.failures = x.stats.failures) :
    ((w.updateFwd k f).fwd j).stats.failures = (w.fwd j).stats.failures :=
  fwd_updateFwd_view w k j f (fun x => x.stats.failures) hf

theorem failures_count (w : World) (k j : Nat) (g : Stats → Stats) (hg : ∀ st, (g st).failures = st.failures) :
    ((w.count k g).fwd j).stats.failures = (w.fwd j).stats.failures :=
  failures_updateFwd w k j _ fun x => hg x.stats

end World

/-- What sending the first `d` entries of `es` over wire `i` leaves, after `a`
attempts from wire state `s`: the entries' payloads went out in order, the wire
moved on by `a` outcomes, and only counters and the backlog changed. -/
structure Sent (k i : Nat) (l : Link) (s : ScriptedWire) (es : List Entry) (w v : World) (d a : Nat) : Prop where
  calm : World.Calm w v
  sinks : v.sinks = w.sinks
  failures : (v.fwd k).stats.failures = (w.fwd k).stats.failures
  wire : ∃ s', v.wire i = some (.scripted s') ∧ s'.onSend = s.onSend ∧ s'.attempts = s.attempts + a ∧
    s'.payloads = s.payloads ++ (es.take d).map (fun e => l.encoder.encode e.text e.task) ∧
    ∀ m, s'.outcome m = s.outcome (m + a)

namespace Sent

variable {k i : Nat} {l : Link} {s : ScriptedWire} {es : List Entry} {w v : World} {d a : Nat}

theorem start (hw : w.wire i = some (.scripted s)) : Sent k i l s es w w 0 0 :=
  ⟨World.Calm.refl w, rfl, rfl, s, hw, rfl, rfl, by simp, fun _ => rfl⟩

/-- Taking the oldest entry out of the backlog, and counting it. -/
theorem drain (h : Sent k i l s es w v d a) {b b' : Backlog} {e : Entry} (hb : (v.fwd k).backlog = some b)
    (hd : b.drainOne = (b', some e)) :
    Sent k i l s es w ((v.updateFwd k fun f => { f with backlog := some b' }).count k
      fun st => { st with drained := st.drained + 1 }) d a where
  calm := h.calm.trans (World.calm_drainOne v k hb hd)
  sinks := h.sinks
  failures := by
    rw [World.failures_count _ k k (fun st => { st with drained := st.drained + 1 }) fun _ => rfl,
      World.failures_updateFwd _ k k (fun f => { f with backlog := some b' }) fun _ => rfl, h.failures]
  wire := h.wire

/-- Handing the link back to the forwarder after a send. -/
theorem relink (h : Sent k i l s es w v d a) (hl : (w.fwd k).link = some l) :
    Sent k i l s es w (v.updateFwd k fun f => { f with link := some l }) d a where
  calm := by
    refine h.calm.trans (World.calm_updateFwd v k ?_)
    have same : (v.fwd k).link = some l := (h.calm.link k).trans hl
    simp [Forwarder.Steady, same]
  sinks := h.sinks
  failures := by rw [World.failures_updateFwd _ k k (fun f => { f with link := some l }) fun _ => rfl, h.failures]
  wire := h.wire

/-- A send of entry `d` that goes through. -/
theorem sendOk (h : Sent k i l s es w v d a) {e : Entry} (he : es[d]? = some e) {s' : ScriptedWire}
    (hw : v.wire i = some (.scripted s')) (ho : s'.outcome 0 = none) (n : Nat) :
    Sent k i l s es w ((v.updateWire i fun _ => .scripted (s'.attempt (l.encoder.encode e.text e.task))).countSent k n)
      (d + 1) (a + 1) := by
  obtain ⟨s₀, hw₀, onSend, attempts, payloads, outcome⟩ := h.wire
  rw [hw, Option.some.injEq, Wire.scripted.injEq] at hw₀
  subst hw₀
  refine ⟨?_, by simp [h.sinks], ?_, ?_⟩
  · refine h.calm.trans ((World.calm_updateWire v i ?_).trans (World.calm_countSent _ k n))
    intro x hx
    rw [hw, Option.some.injEq] at hx
    subst hx
    simp [Wire.closes, Wire.onSend]
  · rw [World.failures_countSent]
    exact h.failures
  · refine ⟨s'.attempt (l.encoder.encode e.text e.task), ?_, ?_, ?_, ?_, fun m => ?_⟩
    · rw [World.wire_countSent, World.wire_updateWire_self, hw]
      rfl
    · rw [ScriptedWire.onSend_attempt, onSend]
    · rw [ScriptedWire.attempts_attempt, attempts, Nat.add_assoc]
    · rw [ScriptedWire.payloads_attempt_of_none _ _ ho, payloads, List.take_add_one, he]
      simp
    · rw [ScriptedWire.outcome_attempt, outcome]
      congr 1
      omega

/-- A send that fails: one more attempt, and nothing delivered. -/
theorem sendFailed (h : Sent k i l s es w v d a) {s' : ScriptedWire} (hw : v.wire i = some (.scripted s'))
    {E : Net.LinkError} (ho : s'.outcome 0 = some E) (p : String) :
    Sent k i l s es w (v.updateWire i fun _ => .scripted (s'.attempt p)) d (a + 1) := by
  obtain ⟨s₀, hw₀, onSend, attempts, payloads, outcome⟩ := h.wire
  rw [hw, Option.some.injEq, Wire.scripted.injEq] at hw₀
  subst hw₀
  refine ⟨?_, h.sinks, h.failures, s'.attempt p, ?_, ?_, ?_, ?_, fun m => ?_⟩
  · refine h.calm.trans (World.calm_updateWire v i ?_)
    intro x hx
    rw [hw, Option.some.injEq] at hx
    subst hx
    simp [Wire.closes, Wire.onSend]
  · rw [World.wire_updateWire_self, hw]
    rfl
  · rw [ScriptedWire.onSend_attempt, onSend]
  · rw [ScriptedWire.attempts_attempt, attempts, Nat.add_assoc]
  · rw [ScriptedWire.payloads_attempt_of_some _ _ ho, payloads]
  · rw [ScriptedWire.outcome_attempt, outcome]
    congr 1
    omega

/-- One round of the drain loop takes entry `d` out of a backlog that holds the
entries from `d` on: the world it leaves still has the first `d` sent, its
backlog holds the entries after `d`, and its wires are as they were. -/
theorem drainEntry (h : Sent k i l s es w v d a) (hlt : d < es.length)
    (hb : (v.fwd k).backlog.map Backlog.entries = some (es.drop d)) :
    ∃ b v₁, (v.fwd k).backlog.map Backlog.drainOne = some (b, some es[d]) ∧
      (v.updateFwd k fun f => { f with backlog := some b }).count k
        (fun st => { st with drained := st.drained + 1 }) = v₁ ∧
      Sent k i l s es w v₁ d a ∧ (v₁.fwd k).backlog.map Backlog.entries = some (es.drop (d + 1)) ∧
      v₁.wire i = v.wire i := by
  obtain ⟨b, hb', hentries⟩ := Option.map_eq_some_iff.mp hb
  have hdrain : b.drainOne = ({ b with entries := es.drop (d + 1) }, some es[d]) := by
    unfold Backlog.drainOne
    rw [hentries, List.drop_eq_getElem_cons hlt]
  refine ⟨_, _, by rw [hb', Option.map_some, hdrain], rfl, h.drain hb' hdrain, ?_, rfl⟩
  rw [Trail.backlog_count, World.fwd_updateFwd_self _ k _ (World.lt_length_of_backlog v k hb')]
  rfl

end Sent

namespace Trail

variable {k i : Nat} {l : Link} {s : ScriptedWire} {es : List Entry} {w : World}

/-- The drain loop, from the world where the first `d` entries are sent, up to
send `j`, which fails: it ends by giving up over the world that send leaves,
with the entry that failed unless it was the record's turn. -/
theorem drainThenSend_fails (env : Surroundings) (r : LogRecord) (hl : l.channel = .wire i)
    (hlink : (w.fwd k).link = some l) (hq : s.onSend = []) {E : Net.LinkError} {j : Nat}
    (hj : j ≤ es.length) (hout : ∀ m < j, s.outcome m = none) (hE : s.outcome j = some E)
    (d : Nat) (hd : d ≤ j) (v : World) (hv : Sent k i l s es w v d d)
    (hb : (v.fwd k).backlog.map Backlog.entries = some (es.drop d)) :
    ∃ u, Sent k i l s es w u j (j + 1) ∧ (u.fwd k).backlog.map Backlog.entries = some (es.drop (j + 1)) ∧
      (drainThenSend env v k r l (es.length - d)).world = (giveUp u k l E es[j]? r).world := by
  obtain ⟨n, hn⟩ : ∃ n, j = d + n := ⟨j - d, by omega⟩
  -- the induction counts the sends still to go through
  induction n generalizing d v with
  | zero =>
    have hdj : d = j := by omega
    subst d
    obtain ⟨s', hw, onSend, -, -, outcome⟩ := hv.wire
    have hq' : s'.onSend = [] := onSend.trans hq
    have failed : s'.outcome 0 = some E := by rw [outcome, Nat.zero_add]; exact hE
    rcases Nat.lt_or_ge j es.length with hlt | hge
    · obtain ⟨b, v1, hd, drained, hv1, left, hw1⟩ := hv.drainEntry hlt hb
      obtain ⟨p, hp⟩ : ∃ p, es.length - j = p + 1 := ⟨es.length - (j + 1), by omega⟩
      rw [hp]
      simp only [drainThenSend, hd, drained]
      rw [hw] at hw1
      rw [transmit_refused hl hw1 hq' failed]
      refine ⟨_, hv1.sendFailed hw1 failed (l.encoder.encode es[j].text es[j].task), left, ?_⟩
      dsimp only
      rw [bind_world, List.getElem?_eq_getElem hlt]
    · have empty : es.drop (j + 1) = es.drop j := by
        rw [List.drop_eq_nil_of_le (by omega), List.drop_eq_nil_of_le hge]
      rw [show es.length - j = 0 by omega]
      simp only [drainThenSend, sendLast]
      rw [transmit_refused hl hw hq' failed]
      refine ⟨_, hv.sendFailed hw failed (l.encoder.encode (Text.cutBytes r.text maxLineBytes) r.task),
        by rw [empty]; exact hb, ?_⟩
      dsimp only
      rw [bind_world, List.getElem?_eq_none hge]
  | succ n ih =>
    have hlt : d < es.length := by omega
    obtain ⟨s', hw, onSend, -, -, outcome⟩ := hv.wire
    have hq' : s'.onSend = [] := onSend.trans hq
    have went : s'.outcome 0 = none := by rw [outcome, Nat.zero_add]; exact hout d (by omega)
    obtain ⟨b, v1, hd, drained, hv1, left, hw1⟩ := hv.drainEntry hlt hb
    rw [hw] at hw1
    obtain ⟨p, hp⟩ : ∃ p, es.length - d = p + 1 := ⟨es.length - (d + 1), by omega⟩
    rw [hp]
    simp only [drainThenSend, hd, drained]
    obtain ⟨m, hsend⟩ := transmit_sent (k := k) hl hw1 hq' went env es[d].task es[d].text
    rw [hsend]
    dsimp only
    rw [bind_world, show p = es.length - (d + 1) by omega]
    have next := (hv1.sendOk (List.getElem?_eq_getElem hlt) hw1 went m).relink hlink
    refine ih (d + 1) (by omega) _ next ?_ (by omega)
    rw [World.backlog_updateFwd _ k k (fun f => { f with link := some l }) fun _ => rfl, backlog_countSent]
    exact left

end Trail

/-- `v` is `w` after forwarder `k` wrote `written` to the local sink `P`: calm,
with its failures, the wires and the console's flushes as they were. -/
structure Wrote (k : Nat) (P : Sink) (written : List LogRecord) (w v : World) : Prop where
  calm : World.Calm w v
  failures : (v.fwd k).stats.failures = (w.fwd k).stats.failures
  wires : v.wires = w.wires
  received : v.received P = (w.received P).map (· ++ written)
  flushes : v.consoleFlushes = w.consoleFlushes

namespace Wrote

variable {k : Nat} {P : Sink} {xs ys : List LogRecord} {u v w : World}

theorem refl (k : Nat) (P : Sink) (w : World) : Wrote k P [] w w :=
  ⟨World.Calm.refl w, rfl, rfl, by simp, rfl⟩

theorem trans (h : Wrote k P xs u v) (h' : Wrote k P ys v w) : Wrote k P (xs ++ ys) u w where
  calm := h.calm.trans h'.calm
  failures := h'.failures.trans h.failures
  wires := h'.wires.trans h.wires
  received := by
    rw [h'.received, h.received, Option.map_map]
    simp [Function.comp_def]
  flushes := h'.flushes.trans h.flushes

end Wrote

namespace Trail

variable (w : World) (k : Nat) {P : Sink}

theorem wrote_fallBack (hP : P.isLocal = true) (r : LogRecord) : Wrote k P [r] w (fallBack w k P r).world :=
  ⟨calm_fallBack w k P r, failures_fallBack w k P k r, wires_fallBack w k P r, received_fallBack w k P hP r,
    consoleFlushes_fallBack w k P r⟩

theorem wrote_replay (hP : P.isLocal = true) (es : List Entry) :
    Wrote k P (es.map LogRecord.ofEntry) w (replay w k P es).world := by
  induction es generalizing w with
  | nil => exact Wrote.refl k P w
  | cons e es ih =>
    rw [replay, bind_world]
    exact (wrote_fallBack w k hP _).trans (ih _)

end Trail

/-- How forwarder `k` ends a teardown that starts from `x`: uninstalled with
nothing left and one more failure counted, the sink `P` it replaced back in the
slot and flushed, holding `written` after what it held; no wire moved. -/
structure TornDown (k : Nat) (P : Sink) (written : List LogRecord) (x z : World) : Prop where
  state : (z.fwd k).state = .uninstalled
  backlog : (z.fwd k).backlog = none
  link : (z.fwd k).link = none
  previous : (z.fwd k).previous = none
  mirror : (z.fwd k).mirror = (x.fwd k).config.mirror
  failures : (z.fwd k).stats.failures = (x.fwd k).stats.failures + 1
  slot : z.slot = ⟨P, .foreign⟩
  wires : z.wires = x.wires
  received : z.received P = (x.received P).map (· ++ written)
  flushed : z.consoleFlushes = x.consoleFlushes + if P = .console then 1 else 0

/-- Writing first, then tearing down. -/
theorem TornDown.of_wrote {k : Nat} {P : Sink} {xs ys : List LogRecord} {x y z : World} (h : Wrote k P xs x y)
    (h' : TornDown k P ys y z) : TornDown k P (xs ++ ys) x z where
  state := h'.state
  backlog := h'.backlog
  link := h'.link
  previous := h'.previous
  mirror := by rw [h'.mirror, (h.calm.steady k).1]
  failures := by rw [h'.failures, h.failures]
  slot := h'.slot
  wires := h'.wires.trans h.wires
  received := by
    rw [h'.received, h.received, Option.map_map]
    simp [Function.comp_def]
  flushed := by rw [h'.flushed, h.flushes]

namespace Trail

variable {k : Nat}

/-- Giving up while active, once the link is gone: the backlog, a notice of `E`
and the record are written to `P`, which gets the slot back. -/
theorem disable_tears_down {y : World} (hk : k < y.fwds.length) (hlink : (y.fwd k).link = none)
    {rest : List Entry} (hb : (y.fwd k).backlog.map Backlog.entries = some rest)
    (hslot : y.slot.provenance = .forwarder k) {P : Sink} (hP : P.isLocal = true) (E : Net.LinkError)
    (r : LogRecord) :
    TornDown k P (rest.map LogRecord.ofEntry ++ [World.disabledNotice E, r]) y (disable y k E P r).world := by
  obtain ⟨b, hb', hentries⟩ := Option.map_eq_some_iff.mp hb
  subst hentries
  have taken : (((y.updateFwd k fun f => { f with state := .restoring }).count k
      fun st => { st with failures := st.failures + 1 }).fwd k).backlog = some b := by
    rw [backlog_count, World.backlog_updateFwd _ k k (fun f => { f with state := .restoring }) fun _ => rfl, hb']
  simp only [disable, World.takeBacklog, taken, bind_world, idle_world]
  generalize hy : ((y.updateFwd k fun f => { f with state := .restoring }).count k
    fun st => { st with failures := st.failures + 1 }).updateFwd k (fun f => { f with backlog := none }) = y₃
  have emptied : y₃.fwd k =
      { y.fwd k with state := .restoring, backlog := none, stats.failures := (y.fwd k).stats.failures + 1 } := by
    rw [← hy, World.fwd_updateFwd_self _ k _ (by simpa [World.count] using hk), World.count,
      World.fwd_updateFwd_self _ k _ (by simpa using hk), World.fwd_updateFwd_self _ k _ hk]
  have kept : y₃.sinks = y.sinks := by rw [← hy]; rfl
  have length : y₃.fwds.length = y.fwds.length := by rw [← hy]; simp [World.count]
  have slot : y₃.slot = y.slot := by rw [← hy]; rfl
  have wires : y₃.wires = y.wires := by rw [← hy]; rfl
  have written := ((wrote_replay y₃ k hP b.entries).trans (wrote_fallBack _ k hP (World.disabledNotice E))).trans
    (wrote_fallBack _ k hP r)
  rw [List.append_assoc, List.singleton_append] at written
  rw [notice_world]
  generalize (fallBack (fallBack (replay y₃ k P b.entries).world k P (World.disabledNotice E)).world k P r).world = m
    at written
  have hkm : k < (m.flush P).fwds.length := by rw [World.flush_fwds, written.calm.length, length]; exact hk
  have final : (((m.flush P).restoreIf k P).1.settle k).fwd k =
      { m.fwd k with previous := none, mirror := (m.fwd k).config.mirror, state := .uninstalled } := by
    rw [World.fwd_settle, if_pos ⟨rfl, hkm⟩, World.fwd_restoreIf, World.fwd_flush]
  have settled : World.sinks (((m.flush P).restoreIf k P).1.settle k) = (m.flush P).sinks := rfl
  have config := (written.calm.steady k).1
  refine ⟨?_, ?_, ?_, ?_, ?_, ?_, ?_, ?_, ?_, ?_⟩
  · rw [final]
  · rw [final]
    exact written.calm.backlog_none (by rw [emptied])
  · rw [final]
    exact (written.calm.link k).trans (by rw [emptied]; exact hlink)
  · rw [final]
  · rw [final]
    show (m.fwd k).config.mirror = _
    rw [config, emptied]
  · rw [final]
    show (m.fwd k).stats.failures = _
    rw [written.failures, emptied]
  · simp only [World.slot_settle, World.restoreIf_slot, World.flush_slot, written.calm.slot, slot,
      Installed.restoreIf, hslot, ↓reduceIte]
  · show (m.flush P).wires = _
    rw [World.flush_wires, written.wires, wires]
  · rw [World.received_of_sinks _ settled, World.received_flush, written.received, World.received_of_sinks _ kept]
  · rw [World.consoleFlushes_of_sinks _ settled, World.consoleFlushes_flush, written.flushes,
      World.consoleFlushes_of_sinks _ kept]

/-- Tearing down after a failed send while forwarder `k` is active and holds
no link: the entry that failed, if it was one, is written first. -/
theorem teardown_tears_down {x : World} (hk : k < x.fwds.length) (ha : (x.fwd k).state = .active)
    (hlink : (x.fwd k).link = none) {rest : List Entry} (hb : (x.fwd k).backlog.map Backlog.entries = some rest)
    (hslot : x.slot.provenance = .forwarder k) (hP : (x.previousSink k).isLocal = true) (E : Net.LinkError)
    (unsent : Option Entry) (r : LogRecord) :
    TornDown k (x.previousSink k) ((unsent.toList ++ rest).map LogRecord.ofEntry ++ [World.disabledNotice E, r]) x
      (teardown x k E unsent r).world := by
  have last : ∀ y xs, Wrote k (x.previousSink k) xs x y → (y.fwd k).backlog = (x.fwd k).backlog →
      TornDown k (x.previousSink k) (xs ++ (rest.map LogRecord.ofEntry ++ [World.disabledNotice E, r])) x
        (if (y.fwd k).state ≠ .active then fallBack y k (x.previousSink k) r
          else disable y k E (x.previousSink k) r).world := by
    intro y xs h hy
    have state : (y.fwd k).state = .active := (h.calm.steady k).2.1.trans ha
    rw [if_neg fun h => h state]
    refine TornDown.of_wrote h (disable_tears_down (h.calm.length ▸ hk) ((h.calm.link k).trans hlink) (hy ▸ hb)
      (h.calm.slot ▸ hslot) hP E r)
  unfold teardown
  cases unsent with
  | none => exact last x [] (Wrote.refl k _ x) rfl
  | some e => exact last _ _ (wrote_fallBack x k hP (LogRecord.ofEntry e)) (backlog_fallBack x k k _ _)

/-- Giving up after a failed send while forwarder `k` is active: the link is
dropped and its channel closed, and the teardown runs from the world that
leaves. -/
theorem giveUp_tears_down {u : World} (hk : k < u.fwds.length) (ha : (u.fwd k).state = .active)
    {rest : List Entry} (hb : (u.fwd k).backlog.map Backlog.entries = some rest)
    (hslot : u.slot.provenance = .forwarder k) (hP : (u.previousSink k).isLocal = true) (l : Link)
    (E : Net.LinkError) (unsent : Option Entry) (r : LogRecord) :
    TornDown k (u.previousSink k) ((unsent.toList ++ rest).map LogRecord.ofEntry ++ [World.disabledNotice E, r])
      ((u.updateFwd k fun f => { f with link := none }).closeChannel l.channel) (giveUp u k l E unsent r).world := by
  have unlinked : ((u.updateFwd k fun f => { f with link := none }).closeChannel l.channel).fwd k =
      { u.fwd k with link := none } := by
    rw [World.closeChannel_fwd, World.fwd_updateFwd_self _ k _ hk]
  have hPx : ((u.updateFwd k fun f => { f with link := none }).closeChannel l.channel).previousSink k =
      u.previousSink k := by
    rw [World.closeChannel_previousSink,
      World.previousSink_updateFwd _ k k (fun f => { f with link := none }) fun _ => rfl]
  rw [giveUp, ← hPx]
  refine teardown_tears_down ?_ ?_ ?_ ?_ ?_ (hPx ▸ hP) E unsent r
  · rw [World.closeChannel_fwds, World.length_updateFwd]
    exact hk
  · rw [unlinked]
    exact ha
  · rw [unlinked]
  · rw [unlinked]
    exact hb
  · rw [World.closeChannel_slot, World.slot_updateFwd]
    exact hslot

end Trail

namespace World

/-- Closing a scripted wire counts one close on it. -/
theorem wire_closeChannel_self {w : World} {i : Nat} {s : ScriptedWire} (hw : w.wire i = some (.scripted s)) :
    (w.closeChannel (.wire i)).wire i = some (.scripted { s with closes := s.closes + 1 }) := by
  simp [closeChannel, wire_updateWire_self, hw]

/-- The slot holds forwarder `k`'s forwarding sink only as `k` installed it. -/
theorem Sound.provenance_of_forwarding {w : World} {k : Nat} (hs : w.Sound) (h : w.slot.sink = .forwarding k) :
    w.slot.provenance = .forwarder k := by
  rcases hs.plain.slot with ⟨hl, -⟩ | ⟨j, hj, hp⟩
  · simp [h, Sink.isLocal] at hl
  · have same : j = k := by rcases hj with hj | hj <;> simp_all
    exact same ▸ hp

end World

/-- Exactly one teardown when send `j` fails for good: the first `j` entries went
out, the wire was closed once, and the replaced sink gets the rest back. -/
theorem log_tears_down_once {env : Surroundings} {w : World} (hw : Reachable env w) {k i : Nat} {l : Link}
    {s : ScriptedWire} {b : Backlog} (hslot : w.slot.sink = .forwarding k) (hb : (w.fwd k).backlog = some b)
    (hl : (w.fwd k).link = some l) (hch : l.channel = .wire i) (hwire : w.wire i = some (.scripted s))
    (hq : s.onSend = []) {r : LogRecord} (hr : (w.fwd k).config.isConflicting r.task = false) {j : Nat}
    (hj : j ≤ b.entries.length) (hout : ∀ m < j, s.outcome m = none) {E : Net.LinkError}
    (hE : s.outcome j = some E) :
    let v := w.log env r
    let P := w.previousSink k
    (∃ s', v.wire i = some (.scripted s') ∧
      s'.payloads = s.payloads ++ (b.entries.take j).map (fun e => l.encoder.encode e.text e.task) ∧
      s'.attempts = s.attempts + (j + 1) ∧ s'.closes = s.closes + 1) ∧
    (v.fwd k).state = .uninstalled ∧ (v.fwd k).backlog = none ∧ (v.fwd k).link = none ∧
    (v.fwd k).previous = none ∧ (v.fwd k).mirror = (w.fwd k).config.mirror ∧
    (v.fwd k).stats.failures = (w.fwd k).stats.failures + 1 ∧
    v.slot = ⟨P, .foreign⟩ ∧
    v.received P = (w.received P).map (· ++ ((b.entries.drop j).map LogRecord.ofEntry ++
      [⟨none, "remote logging disabled: " ++ E.message ++ "\n"⟩, r])) ∧
    v.consoleFlushes = w.consoleFlushes + if P = .console then 1 else 0 := by
  intro v P
  have hc := hw.coherent
  have hs := hc.sound
  have ha : (w.fwd k).state = .active := hs.active_of_forwarding hslot
  have hk := World.lt_length_of_backlog w k hb
  have hprov := World.Sound.provenance_of_forwarding hs hslot
  have hP : P.isLocal = true := hs.plain.previous k
  have forwarded : v = { (Trail.drainThenSend env { w with inside := true } k r l (b.entries.length - 0)).world with
      inside := w.inside } := by
    simp only [v, World.log_eq hs.plain, Trail.dispatch, hslot, Trail.bind_world, Trail.emit_world,
      Trail.forward, hc.outside, hr, Bool.or_false, Bool.false_eq_true, ↓reduceIte, World.fwd_inside, hl,
      hb, Option.map_some, Option.getD_some, Trail.within_world, Nat.sub_zero]
    rfl
  obtain ⟨u, sent, left, ends⟩ := Trail.drainThenSend_fails env r hch (w := { w with inside := true }) hl hq hj
    hout hE 0 (Nat.zero_le j) _ (Sent.start hwire) (by simp [hb])
  rw [ends] at forwarded
  have hu : k < u.fwds.length := by rw [sent.calm.length]; exact hk
  have hPu : u.previousSink k = P := (sent.calm.previousSink k).trans rfl
  have torn := Trail.giveUp_tears_down hu ((sent.calm.steady k).2.1.trans ha) left (sent.calm.slot ▸ hprov)
    (hPu ▸ hP) l E b.entries[j]? r
  rw [hPu] at torn
  generalize hx : (u.updateFwd k fun f => { f with link := none }).closeChannel l.channel = x at torn
  have xk : x.fwd k = { u.fwd k with link := none } := by
    rw [← hx, World.closeChannel_fwd, World.fwd_updateFwd_self _ k _ hu]
  have xsinks : x.sinks = w.sinks := by rw [← hx, World.sinks_closeChannel, World.sinks_updateFwd, sent.sinks]; rfl
  rw [← List.drop_eq_getElem?_toList_append] at torn
  generalize (Trail.giveUp u k l E b.entries[j]? r).world = z at torn forwarded
  rw [forwarded]
  obtain ⟨s', hw', -, attempts, payloads, -⟩ := sent.wire
  have closes : s'.closes = s.closes := by
    have same := sent.calm.closes i
    change (u.wire i).map Wire.closes = (w.wire i).map Wire.closes at same
    rw [hw', hwire] at same
    simpa [Wire.closes] using same
  refine ⟨⟨{ s' with closes := s'.closes + 1 }, ?_, payloads, attempts, by rw [closes]⟩, torn.state, torn.backlog,
    torn.link, torn.previous, ?_, ?_, torn.slot, ?_, ?_⟩
  · show z.wires[i]? = _
    rw [torn.wires, ← hx, hch]
    exact World.wire_closeChannel_self hw'
  · rw [World.fwd_inside, torn.mirror, xk]
    exact congrArg Config.mirror (sent.calm.steady k).1
  · rw [World.fwd_inside, torn.failures, xk]
    exact congrArg (· + 1) sent.failures
  · rw [World.received_of_sinks _ (World.sinks_inside z w.inside), torn.received, World.received_of_sinks _ xsinks]
    rfl
  · rw [World.consoleFlushes_of_sinks _ (World.sinks_inside z w.inside), torn.flushed,
      World.consoleFlushes_of_sinks _ xsinks]

/-- A forwarder buffers two lines early and is activated over a wire that takes
one send and refuses the next: the next line it forwards sends the first entry,
fails on the second and tears the forwarder down. -/
theorem second_send_refused_tears_down :
    let env : Surroundings := ⟨Net.Machine.isolated, none⟩
    let s : ScriptedWire := ⟨0, some .closed, [none], 0, 0, [], [], 0⟩
    let w := ((((World.empty.apply env (.addForwarder (Config.defaults none))).apply env (.earlyBuffering 0 8)).apply
      env (.log ⟨some "main", "a\n"⟩)).apply env (.log ⟨some "main", "b\n"⟩)).apply env (.activate 0 s none true false)
    let b : Backlog := ⟨8, [⟨some "main", "a\n"⟩, ⟨some "main", "b\n"⟩], 0⟩
    let l : Link := ⟨.wire 0, .raw⟩
    let r : LogRecord := ⟨some "main", "c\n"⟩
    let v := w.log env r
    let P := w.previousSink 0
    (∃ s', v.wire 0 = some (.scripted s') ∧
      s'.payloads = s.payloads ++ (b.entries.take 1).map (fun e => l.encoder.encode e.text e.task) ∧
      s'.attempts = s.attempts + (1 + 1) ∧ s'.closes = s.closes + 1) ∧
    (v.fwd 0).state = .uninstalled ∧ (v.fwd 0).backlog = none ∧ (v.fwd 0).link = none ∧
    (v.fwd 0).previous = none ∧ (v.fwd 0).mirror = (w.fwd 0).config.mirror ∧
    (v.fwd 0).stats.failures = (w.fwd 0).stats.failures + 1 ∧
    v.slot = ⟨P, .foreign⟩ ∧
    v.received P = (w.received P).map (· ++ ((b.entries.drop 1).map LogRecord.ofEntry ++
      [⟨none, "remote logging disabled: " ++ Net.LinkError.closed.message ++ "\n"⟩, r])) ∧
    v.consoleFlushes = w.consoleFlushes + if P = .console then 1 else 0 := by
  intro env s w b l r
  have hw : Reachable env w :=
    .next _ (.next _ (.next _ (.next _ (.next _ .start trivial) Nat.zero_lt_one) trivial) trivial)
      ⟨by decide +kernel, rfl⟩
  exact log_tears_down_once hw (k := 0) (i := 0) (l := l) (s := s) (b := b) (by decide +kernel) (by decide +kernel)
    (by decide +kernel) rfl (by decide +kernel) rfl (r := r) (by decide +kernel) (j := 1) (by decide) (by decide)
    (E := .closed) rfl

end SyslogRelay.Relay
