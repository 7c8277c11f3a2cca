import SyslogRelay.Proofs.Teardown

/-!
What a forwarder's counters count: each is its tally over everything that
happened since the forwarder was added (`Reachable.counters_tally`).
-/

namespace SyslogRelay.Relay

open SyslogRelay.Diagnostic

/-- What an operation did that its trail leaves out: forwarder `k`'s drain took
entry `e` out of its backlog to send it, or a send of forwarder `k` went through
after its transport counted `n` more retries. -/
inductive Tick
  | drained (k : Nat) (e : Entry)
  | absorbed (k : Nat) (n : Nat)
  deriving DecidableEq, Repr

namespace Tick

@[simp] def drainedBy (k : Nat) : Tick → Bool
  | drained j _ => j == k
  | absorbed .. => false

/-- The retries the ticks of forwarder `k` count, in total. -/
def retries (k : Nat) : List Tick → Nat
  | [] => 0
  | drained .. :: ts => retries k ts
  | absorbed j n :: ts => (if j = k then n else 0) + retries k ts

theorem retries_append (k : Nat) (ts ts' : List Tick) :
    retries k (ts ++ ts') = retries k ts + retries k ts' := by
  induction ts with
  | nil => simp [retries]
  | cons t ts ih => cases t <;> simp [retries, ih, Nat.add_assoc]

end Tick

namespace Effect

/-- A send of forwarder `k` that went through. -/
@[simp] def sentBy (k : Nat) : Effect → Bool
  | sent j .. => j == k
  | _ => false

/-- A send of forwarder `k` that failed. -/
@[simp] def refusedBy (k : Nat) : Effect → Bool
  | refused j .. => j == k
  | _ => false

/-- A record stored in forwarder `k`'s backlog. -/
@[simp] def storedBy (k : Nat) : Effect → Bool
  | stored j .. => j == k
  | _ => false

/-- A record stored in forwarder `k`'s backlog that pushed its oldest entry out. -/
@[simp] def evictedBy (k : Nat) : Effect → Bool
  | stored j b task text => j == k && (b.append task text).2 == .evicted
  | _ => false

/-- A write of forwarder `k` to the sink it replaced, other than a mirror copy. -/
@[simp] def writtenBy (k : Nat) : Effect → Bool
  | wrote j .. | noticed j .. => j == k
  | _ => false

end Effect

namespace Stats

/-- Counters added field by field. -/
def add (a b : Stats) : Stats :=
  ⟨a.sent + b.sent, a.retried + b.retried, a.buffered + b.buffered, a.drained + b.drained,
    a.evicted + b.evicted, a.locally + b.locally, a.failures + b.failures⟩

instance : Add Stats := ⟨add⟩

@[simp] theorem add_def (a b : Stats) :
    a + b = ⟨a.sent + b.sent, a.retried + b.retried, a.buffered + b.buffered, a.drained + b.drained,
      a.evicted + b.evicted, a.locally + b.locally, a.failures + b.failures⟩ := rfl

@[simp] theorem add_zero (a : Stats) : a + zero = a := rfl

@[simp] theorem zero_add (a : Stats) : zero + a = a := by
  simp [zero]

theorem add_assoc (a b c : Stats) : a + b + c = a + (b + c) := by
  simp [Nat.add_assoc]

end Stats

/-- What effects `es` and ticks `ts` count for forwarder `k`. -/
def tally (k : Nat) (es : List Effect) (ts : List Tick) : Stats where
  sent := es.countP (Effect.sentBy k)
  retried := Tick.retries k ts
  buffered := es.countP (Effect.storedBy k)
  drained := ts.countP (Tick.drainedBy k)
  evicted := es.countP (Effect.evictedBy k)
  locally := es.countP (Effect.writtenBy k)
  failures := es.countP (Effect.refusedBy k)

theorem tally_append (k : Nat) (es es' : List Effect) (ts ts' : List Tick) :
    tally k (es ++ es') (ts ++ ts') = tally k es ts + tally k es' ts' := by
  simp [tally, Tick.retries_append]

/-- Going from `w` to `v` with effects `es` and ticks `ts` raised forwarder `k`'s
counters by their tally, kept its settings and fired its boot signal as due. -/
structure Accounts (k : Nat) (w v : World) (es : List Effect) (ts : List Tick) : Prop where
  grows : w.fwds.length ≤ v.fwds.length
  stats : (v.fwd k).stats = (w.fwd k).stats + tally k es ts
  config : (v.fwd k).config = (w.fwd k).config
  fired : (v.fwd k).boot.fired = true ↔
    (w.fwd k).boot.fired = true ∨ ((w.fwd k).config.bootMark = .firstTransmit ∧ 0 < (tally k es ts).sent)

namespace Accounts

variable {k : Nat} {u v w : World} {es es' : List Effect} {ts ts' : List Tick}

/-- A step that leaves forwarder `k` as it was and does nothing its counters count. -/
theorem of_fwd (hl : w.fwds.length ≤ v.fwds.length) (h : v.fwd k = w.fwd k)
    (hes : tally k es [] = Stats.zero) : Accounts k w v es [] where
  grows := hl
  stats := by rw [h, hes, Stats.add_zero]
  config := by rw [h]
  fired := by simp [h, hes, Stats.zero]

theorem refl (w : World) : Accounts k w w [] [] := of_fwd (Nat.le_refl _) rfl rfl

theorem trans (h : Accounts k u v es ts) (h' : Accounts k v w es' ts') :
    Accounts k u w (es ++ es') (ts ++ ts') where
  grows := Nat.le_trans h.grows h'.grows
  stats := by rw [h'.stats, h.stats, tally_append, Stats.add_assoc]
  config := h'.config.trans h.config
  fired := by
    rw [h'.fired, h.fired, h.config, tally_append]
    simp only [Stats.add_def]
    grind

theorem lt (h : Accounts k w v es ts) (hk : k < w.fwds.length) : k < v.fwds.length :=
  Nat.lt_of_lt_of_le hk h.grows

/-- An update of one forwarder that keeps its counters, settings and boot signal. -/
theorem updateFwd (j : Nat) {f : Forwarder → Forwarder}
    (hf : ∀ x, (f x).stats = x.stats ∧ (f x).config = x.config ∧ (f x).boot = x.boot) :
    Accounts k w (w.updateFwd j f) [] [] where
  grows := by simp
  stats := by
    rw [World.fwd_updateFwd_view w j k f Forwarder.stats fun x => (hf x).1]
    rfl
  config := World.fwd_updateFwd_view w j k f Forwarder.config fun x => (hf x).2.1
  fired := by
    rw [World.fwd_updateFwd_view w j k f (fun x => x.boot.fired) fun x => by rw [(hf x).2.2]]
    simp [tally]

/-- Counting for forwarder `j` what effects and ticks of `j` alone tally, and no send. -/
theorem count (hk : k < w.fwds.length) (j : Nat) {g : Stats → Stats}
    (hg : ∀ s, g s = s + tally j es ts) (hsent : (tally j es ts).sent = 0)
    (hown : ∀ i, i ≠ j → tally i es ts = Stats.zero) :
    Accounts k w (w.count j g) es ts := by
  by_cases hj : j = k
  · subst hj
    have self : (w.count j g).fwd j = { w.fwd j with stats := g (w.fwd j).stats } :=
      World.fwd_updateFwd_self w j _ hk
    exact ⟨by simp [World.count], by rw [self, hg], by rw [self], by simp [self, hsent]⟩
  · have other : (w.count j g).fwd k = w.fwd k := by
      rw [World.count, World.fwd_updateFwd, if_neg fun h => hj h.1]
    exact ⟨by simp [World.count], by rw [other, hown k (Ne.symm hj), Stats.add_zero], by rw [other],
      by simp [other, hown k (Ne.symm hj), Stats.zero]⟩

/-- The relation reads its effects and ticks only through their tally. -/
theorem congr (h : Accounts k w v es ts) (he : tally k es ts = tally k es' ts') : Accounts k w v es' ts' :=
  ⟨h.grows, he ▸ h.stats, h.config, he ▸ h.fired⟩

theorem perm (h : Accounts k w v es ts) (he : es.Perm es') : Accounts k w v es' ts :=
  h.congr (by simp [tally, he.countP_eq])

/-- A last step that does nothing the counters count. -/
theorem trans_quiet (h : Accounts k u v es ts) (h' : Accounts k v w [] []) : Accounts k u w es ts :=
  (h.trans h').congr (by simp)

/-- First `t`, then a step that only does what the trail shows. -/
theorem bind {t : Trail} {f : World → Trail} (h : Accounts k w t.world t.effects ts)
    (hf : Accounts k t.world (f t.world).world (f t.world).effects []) :
    Accounts k w (t.bind f).world (t.bind f).effects ts :=
  (h.trans hf).congr (by simp)

/-- Entering or leaving the relay's own code counts nothing. -/
theorem inside (b : Bool) : Accounts k w { w with inside := b } [] [] := of_fwd (Nat.le_refl _) rfl rfl

/-- A record a sink keeps, with effects that count nothing. -/
theorem keep (s : Sink) (r : LogRecord) (hes : tally k es [] = Stats.zero) : Accounts k w (w.keep s r) es [] :=
  of_fwd (by simp) (World.keep_fwd _ _ _ k) hes

theorem closeChannel (c : Channel) : Accounts k w (w.closeChannel c) [] [] :=
  of_fwd (by simp) (World.closeChannel_fwd _ _ k) rfl

end Accounts

namespace Forwarder

variable (f : Forwarder)

@[simp] theorem markBoot_stats : f.markBoot.1.stats = f.stats := rfl
@[simp] theorem markBoot_config : f.markBoot.1.config = f.config := rfl

/-- Marking the boot leaves the signal fired. -/
@[simp] theorem markBoot_fired : f.markBoot.1.boot.fired = true := by
  simp only [markBoot, BootSignal.mark]
  split <;> simp_all

end Forwarder

theorem World.count_count (w : World) (k : Nat) (g h : Stats → Stats) :
    (w.count k g).count k h = w.count k (h ∘ g) := by
  simp only [World.count, World.updateFwd, List.modify_modify_eq]
  rfl

namespace Trail

/-- The retries a link's transport has counted: its scripted wire's count, or the
UDP link's own. -/
def retriesOf (w : World) (link : Link) : Nat :=
  match link.channel with
  | .wire i => ((w.wire i).map Wire.retries).getD 0
  | .udp l => l.retries

/-- The tick of a send that goes through: the retries its transport counted on
the way. -/
def transmitTicks (env : Surroundings) (w : World) (k : Nat) (link : Link) (task : Option String)
    (text : String) : List Tick :=
  match transmit env w k link task text with
  | (t, link', .ok ()) => [.absorbed k (retriesOf t.world link' - retriesOf w link)]
  | (_, _, .error _) => []

/-- The ticks of `drainThenSend`, step by step. -/
def drainTicks (env : Surroundings) (w : World) (k : Nat) (r : LogRecord) (link : Link) : Nat → List Tick
  | 0 => transmitTicks env w k link r.task (Text.cutBytes r.text maxLineBytes)
  | pending + 1 =>
    match (w.fwd k).backlog.map Backlog.drainOne with
    | some (b, some entry) =>
      let w := w.updateFwd k fun f => { f with backlog := some b }
      let w := w.count k fun s => { s with drained := s.drained + 1 }
      .drained k entry :: transmitTicks env w k link entry.task entry.text ++
        match transmit env w k link entry.task entry.text with
        | (t, link, .ok ()) =>
          drainTicks env (t.world.updateFwd k fun f => { f with link := some link }) k r link pending
        | (_, _, .error _) => []
    | _ => transmitTicks env w k link r.task (Text.cutBytes r.text maxLineBytes)

def forwardTicks (env : Surroundings) (w : World) (k : Nat) (r : LogRecord) : List Tick :=
  if w.inside || (w.fwd k).config.isConflicting r.task then []
  else
    let u := { w with inside := true }
    match (u.fwd k).link with
    | none => []
    | some link => drainTicks env u k r link (((u.fwd k).backlog.map Backlog.len).getD 0)

def dispatchTicks (env : Surroundings) (w : World) (r : LogRecord) : List Tick :=
  match w.slot.sink with
  | .forwarding k => forwardTicks env w k r
  | _ => []

/-- The ticks of `drainTaken`, step by step. -/
def drainTakenTicks (env : Surroundings) (w : World) (k : Nat) (link : Link) : List Entry → List Tick
  | [] => []
  | e :: es =>
    let w := w.count k fun s => { s with drained := s.drained + 1 }
    .drained k e :: transmitTicks env w k link e.task e.text ++
      match transmit env w k link e.task e.text with
      | (t, link, .ok ()) => drainTakenTicks env t.world k link es
      | (_, _, .error _) => []

def stopTicks (env : Surroundings) (w : World) (k : Nat) : List Tick :=
  let u := { w with inside := true }
  if (u.fwd k).state = .uninstalled then []
  else
    let u := u.updateFwd k fun f => { f with state := .restoring }
    let (u, link) := u.takeLink k
    let (u, backlog) := u.takeBacklog k
    match backlog, link with
    | some b, some l => drainTakenTicks env u k l b.entries
    | _, _ => []

def applyTicks (env : Surroundings) (w : World) : Op → List Tick
  | .log r => dispatchTicks env w r
  | .stop k | .shutdown k => stopTicks env w k
  | _ => []

/-- The ticks of a run, in order. -/
def runTicks (env : Surroundings) (w : World) : List Op → List Tick
  | [] => []
  | op :: ops => applyTicks env w op ++ runTicks env (apply env w op).world ops

end Trail

namespace Accounts

variable {k : Nat} {w : World}

/-- A write to the sink forwarder `j` replaced, the record itself or a notice. -/
theorem written (hk : k < w.fwds.length) (j : Nat) (P : Sink) (r : LogRecord) {x : Effect}
    (hx : x = .wrote j P r ∨ ∃ e, x = .noticed j P e) :
    Accounts k w ((w.count j fun s => { s with locally := s.locally + 1 }).keep P r) [x] [] := by
  have counted : Accounts k w (w.count j fun s => { s with locally := s.locally + 1 }) [x] [] := by
    refine count hk j (fun s => ?_) ?_ fun i hi => ?_
    · rcases hx with rfl | ⟨e, rfl⟩ <;> simp [tally, Tick.retries]
    · rcases hx with rfl | ⟨e, rfl⟩ <;> simp [tally]
    · rcases hx with rfl | ⟨e, rfl⟩ <;> simp [tally, Tick.retries, Stats.zero, Ne.symm hi]
  exact counted.trans (keep P r rfl)

theorem fallBack (hk : k < w.fwds.length) (j : Nat) (P : Sink) (r : LogRecord) :
    Accounts k w (Trail.fallBack w j P r).world (Trail.fallBack w j P r).effects [] :=
  written hk j P r (.inl rfl)

theorem notice (hk : k < w.fwds.length) (j : Nat) (P : Sink) (e : Net.LinkError) :
    Accounts k w (Trail.notice w j P e).world (Trail.notice w j P e).effects [] :=
  written hk j P _ (.inr ⟨e, rfl⟩)

theorem replay (hk : k < w.fwds.length) (j : Nat) (P : Sink) (es : List Entry) :
    Accounts k w (Trail.replay w j P es).world (Trail.replay w j P es).effects [] := by
  induction es generalizing w with
  | nil => exact refl w
  | cons e es ih =>
    have first := fallBack hk j P (LogRecord.ofEntry e)
    exact first.trans (ih (first.lt hk))

/-- A mirror copy is no write the counters count. -/
theorem echo (j : Nat) (r : LogRecord) : Accounts k w (Trail.echo w j r).world (Trail.echo w j r).effects [] := by
  unfold Trail.echo
  split
  · exact keep _ r rfl
  · exact refl w

theorem took (j : Nat) (r : LogRecord) :
    Accounts k w (Trail.emit w (.took j r)).world (Trail.emit w (.took j r)).effects [] :=
  of_fwd (Nat.le_refl _) rfl rfl

/-- A record stored in forwarder `j`'s backlog counts one more buffered record,
and one more evicted when the store pushed the oldest entry out. -/
theorem stored (hk : k < w.fwds.length) (j : Nat) {b b' : Backlog} {task : Option String} {text : String}
    {out : AppendOutcome} (heq : b.append task text = (b', out)) :
    Accounts k w ((if out = .evicted then w.count j fun s => { s with evicted := s.evicted + 1 } else w).count j
      fun s => { s with buffered := s.buffered + 1 }) [.stored j b task text] [] := by
  by_cases hev : out = .evicted
  · rw [if_pos hev, World.count_count]
    refine count hk j (fun s => ?_) (by simp [tally]) fun i hi => ?_
    · simp [tally, Tick.retries, heq, hev]
    · simp [tally, Tick.retries, Stats.zero, Ne.symm hi]
  · rw [if_neg hev]
    refine count hk j (fun s => ?_) (by simp [tally]) fun i hi => ?_
    · simp [tally, Tick.retries, heq, hev]
    · simp [tally, Tick.retries, Stats.zero, Ne.symm hi]

theorem defer (hk : k < w.fwds.length) (j : Nat) (r : LogRecord) :
    Accounts k w (Trail.defer w j r).world (Trail.defer w j r).effects [] := by
  unfold Trail.defer
  dsimp only
  split
  · exact fallBack hk j _ r
  · rename_i b _
    split
    · exact fallBack hk j _ r
    · rename_i b' out _ heq
      have kept : Accounts k w (w.updateFwd j fun f => { f with backlog := some b' }) [] [] :=
        updateFwd j fun _ => ⟨rfl, rfl, rfl⟩
      exact kept.trans ((stored (kept.lt hk) j heq).trans (echo j r))

theorem dispatchInside (hk : k < w.fwds.length) (r : LogRecord) :
    Accounts k w (Trail.dispatchInside w r).world (Trail.dispatchInside w r).effects [] := by
  unfold Trail.dispatchInside
  split
  · exact (took _ r).trans (defer hk _ r)
  · exact (took _ r).trans (defer hk _ r)
  · exact keep _ r rfl

theorem dispatchAllInside (hk : k < w.fwds.length) (rs : List LogRecord) :
    Accounts k w (Trail.dispatchAllInside w rs).world (Trail.dispatchAllInside w rs).effects [] := by
  induction rs generalizing w with
  | nil => exact refl w
  | cons r rs ih =>
    have first := dispatchInside hk r
    exact first.bind (ih (Nat.lt_of_lt_of_le hk first.grows))

theorem logAttempt (hk : k < w.fwds.length) (s : ScriptedWire) :
    Accounts k w (Trail.logAttempt w s).world (Trail.logAttempt w s).effects [] :=
  dispatchAllInside hk s.onSend

theorem sendScripted (hk : k < w.fwds.length) (i : Nat) (p : String) :
    Accounts k w (Trail.sendScripted w i p).1.world (Trail.sendScripted w i p).1.effects [] := by
  unfold Trail.sendScripted
  split
  · rename_i s _
    have attempt : Accounts k w (w.updateWire i fun _ => .scripted { s with attempts := s.attempts + 1 }) [] [] :=
      of_fwd (by simp [World.updateWire]) rfl rfl
    have logged := logAttempt (attempt.lt hk) s
    exact attempt.trans (logged.trans_quiet
      (of_fwd (by simp [Trail.fwds_settleSend]) (by simp [World.fwd, Trail.fwds_settleSend]) rfl))
  · exact refl w

/-- A send that went through counts one datagram and its retries, and marks the
boot when the policy says so. -/
theorem countSent (hk : k < w.fwds.length) (j n : Nat) (task : Option String) (text : String) :
    Accounts k w (w.countSent j n) [.sent j task text] [.absorbed j n] := by
  by_cases hj : j = k
  · subst hj
    have self : ∀ g : Stats → Stats, (w.count j g).fwd j = { w.fwd j with stats := g (w.fwd j).stats } :=
      fun g => World.fwd_updateFwd_self w j _ hk
    have grown : j < (w.count j fun s => { s with retried := s.retried + n, sent := s.sent + 1 }).fwds.length := by
      simpa [World.count] using hk
    unfold World.countSent
    dsimp only
    split
    · rename_i first
      simp only [self] at first
      refine ⟨by simp [World.count], ?_, ?_, ?_⟩ <;>
        simp [World.fwd_updateFwd_self _ j _ grown, self, tally, Tick.retries, first]
    · rename_i manual
      simp only [self] at manual
      refine ⟨by simp [World.count], ?_, ?_, ?_⟩ <;> simp [self, tally, Tick.retries, manual]
  · have other : (w.countSent j n).fwd k = w.fwd k := by
      have beside : ∀ v : World, ∀ f : Forwarder → Forwarder, (v.updateFwd j f).fwd k = v.fwd k := fun v f => by
        rw [World.fwd_updateFwd, if_neg fun h => hj h.1]
      unfold World.countSent
      dsimp only
      split <;> simp only [beside, World.count]
    have quiet : Accounts k w (w.countSent j n) [] [] := of_fwd (Nat.le_of_eq (World.calm_countSent w j n).length.symm) other rfl
    exact quiet.congr (by simp [tally, Tick.retries, hj])

theorem drained (hk : k < w.fwds.length) (j : Nat) (e : Entry) :
    Accounts k w (w.count j fun s => { s with drained := s.drained + 1 }) [] [.drained j e] :=
  count hk j (fun s => by simp [tally, Tick.retries]) (by simp [tally]) fun i hi => by
    simp [tally, Tick.retries, Stats.zero, Ne.symm hi]

theorem failed (hk : k < w.fwds.length) (j : Nat) (task : Option String) (text : String) (e : Net.LinkError) :
    Accounts k w (w.count j fun s => { s with failures := s.failures + 1 }) [.refused j task text e] [] :=
  count hk j (fun s => by simp [tally, Tick.retries]) (by simp [tally]) fun i hi => by
    simp [tally, Tick.retries, Stats.zero, Ne.symm hi]

theorem within {t : Trail} (h : Accounts k w t.world t.effects ts) (b : Bool) :
    Accounts k w (t.within b).world (t.within b).effects ts :=
  h.trans_quiet (inside b)

/-- Giving the slot back after a flush. -/
theorem restore (j : Nat) (P : Sink) : Accounts k w ((w.flush P).restoreIf j P).1 [] [] :=
  of_fwd (by simp) (by simp) rfl

theorem settle (j : Nat) : Accounts k w (w.settle j) [] [] :=
  updateFwd j fun _ => ⟨rfl, rfl, rfl⟩

/-- A send that went through, with the retries its transport counted on the way. -/
theorem transmit_ok (hk : k < w.fwds.length) {env : Surroundings} {j : Nat} {link link' : Link}
    {task : Option String} {text : String} {t : Trail}
    (h : Trail.transmit env w j link task text = (t, link', .ok ())) :
    Accounts k w t.world t.effects [.absorbed j (Trail.retriesOf t.world link' - Trail.retriesOf w link)] := by
  unfold Trail.transmit at h
  dsimp only at h
  split at h
  · rename_i i hc
    split at h
    · rename_i t0 sent
      simp only [Prod.mk.injEq] at h
      obtain ⟨rfl, rfl, -⟩ := h
      have scripted := sendScripted hk i (link.encoder.encode text task)
      rw [sent] at scripted
      simp only [Trail.retriesOf, hc, World.wire_countSent]
      exact scripted.trans (countSent (scripted.lt hk) j _ task text)
    · simp at h
  · rename_i l hc
    split at h
    · simp only [Prod.mk.injEq] at h
      obtain ⟨rfl, rfl, -⟩ := h
      have delivered : Accounts k w { w with wires := w.wires.map (Wire.deliver l.dest.port
          (link.encoder.encode text task)) } [] [] := of_fwd (Nat.le_refl _) rfl rfl
      simp only [Trail.retriesOf, hc]
      exact delivered.trans (countSent (delivered.lt hk) j _ task text)
    · simp at h

/-- A send that failed: its refusal comes last, after what the attempt logged. -/
theorem transmit_error (hk : k < w.fwds.length) {env : Surroundings} {j : Nat} {link link' : Link}
    {task : Option String} {text : String} {t : Trail} {e : Net.LinkError}
    (h : Trail.transmit env w j link task text = (t, link', .error e)) :
    ∃ es, t.effects = es ++ [.refused j task text e] ∧ Accounts k w t.world es [] := by
  unfold Trail.transmit at h
  dsimp only at h
  split at h
  · rename_i i hc
    split at h
    · simp at h
    · rename_i t0 e0 sent
      simp only [Prod.mk.injEq, Except.error.injEq] at h
      obtain ⟨rfl, rfl, rfl⟩ := h
      have scripted := sendScripted hk i (link.encoder.encode text task)
      rw [sent] at scripted
      exact ⟨t0.effects, rfl, scripted⟩
  · split at h
    · simp at h
    · simp only [Prod.mk.injEq, Except.error.injEq] at h
      obtain ⟨rfl, rfl, rfl⟩ := h
      exact ⟨[], rfl, refl w⟩

/-- Giving up while active counts, as one failure, the refused send that led to it. -/
theorem disable (hk : k < w.fwds.length) (j : Nat) (err : Net.LinkError) (P : Sink) (r : LogRecord)
    (task : Option String) (text : String) :
    Accounts k w (Trail.disable w j err P r).world
      (.refused j task text err :: (Trail.disable w j err P r).effects) [] := by
  have restoring : Accounts k w (w.updateFwd j fun f => { f with state := .restoring }) [] [] :=
    updateFwd j fun _ => ⟨rfl, rfl, rfl⟩
  have counted := restoring.trans (failed (restoring.lt hk) j task text err)
  have taken := counted.trans (updateFwd (w := (w.updateFwd j fun f => { f with state := .restoring }).count j
    fun s => { s with failures := s.failures + 1 }) j (f := fun f => { f with backlog := none }) fun _ => ⟨rfl, rfl, rfl⟩)
  have settled : ∀ v : World, Accounts k v (((v.flush P).restoreIf j P).1.settle j) [] [] := fun v =>
    (restore j P).trans (settle j)
  have rest : ∀ v : World, k < v.fwds.length →
      Accounts k v ((Trail.notice v j P err).bind fun v => (Trail.fallBack v j P r).bind fun v =>
        Trail.idle (((v.flush P).restoreIf j P).1.settle j)).world
        ((Trail.notice v j P err).bind fun v => (Trail.fallBack v j P r).bind fun v =>
          Trail.idle (((v.flush P).restoreIf j P).1.settle j)).effects [] := by
    intro v hv
    have noticed := notice hv j P err
    have fell := fallBack (noticed.lt hv) j P r
    exact noticed.bind (fell.bind (settled _))
  simp only [Trail.disable, World.takeBacklog]
  split
  · rename_i b _
    have replayed := replay (taken.lt hk) j P b.entries
    exact taken.trans (replayed.trans (rest _ (replayed.lt (taken.lt hk))))
  · exact taken.trans (rest _ (taken.lt hk))

theorem teardown (hk : k < w.fwds.length) {j : Nat} (ha : (w.fwd j).state = .active) (err : Net.LinkError)
    (unsent : Option Entry) (r : LogRecord) (task : Option String) (text : String) :
    Accounts k w (Trail.teardown w j err unsent r).world
      (.refused j task text err :: (Trail.teardown w j err unsent r).effects) [] := by
  unfold Trail.teardown
  cases unsent with
  | none =>
    simp only [Trail.bind_world, Trail.bind_effects, Trail.idle_world, Trail.idle_effects, ha, ne_eq,
      not_true_eq_false, if_false, List.nil_append]
    exact disable hk j err _ r task text
  | some e =>
    have written := fallBack hk j (w.previousSink j) (LogRecord.ofEntry e)
    have still : ((Trail.fallBack w j (w.previousSink j) (LogRecord.ofEntry e)).world.fwd j).state = .active :=
      ((Trail.calm_fallBack w j _ _).steady j).2.1.trans ha
    simp only [Trail.bind_world, Trail.bind_effects, still, ne_eq, not_true_eq_false, if_false]
    exact (written.trans (disable (written.lt hk) j err _ r task text)).perm List.perm_middle

theorem giveUp (hk : k < w.fwds.length) {j : Nat} (ha : (w.fwd j).state = .active) (link : Link)
    (err : Net.LinkError) (unsent : Option Entry) (r : LogRecord) (task : Option String) (text : String) :
    Accounts k w (Trail.giveUp w j link err unsent r).world
      (.refused j task text err :: (Trail.giveUp w j link err unsent r).effects) [] := by
  have closed : Accounts k w ((w.updateFwd j fun f => { f with link := none }).closeChannel link.channel) [] [] :=
    (updateFwd (f := fun f => { f with link := none }) j fun _ => ⟨rfl, rfl, rfl⟩).trans (closeChannel _)
  have still : (((w.updateFwd j fun f => { f with link := none }).closeChannel link.channel).fwd j).state =
      .active := by
    rw [World.closeChannel_fwd]
    simpa using ha
  exact closed.trans (teardown (closed.lt hk) still err unsent r task text)

theorem sendLast (hk : k < w.fwds.length) {j : Nat} (ha : (w.fwd j).state = .active) (env : Surroundings)
    (r : LogRecord) (link : Link) :
    Accounts k w (Trail.sendLast env w j r link).world (Trail.sendLast env w j r link).effects
      (Trail.transmitTicks env w j link r.task (Text.cutBytes r.text maxLineBytes)) := by
  have calm := Trail.calm_transmit w j env link r.task (Text.cutBytes r.text maxLineBytes)
  unfold Trail.sendLast Trail.transmitTicks
  rcases sent : Trail.transmit env w j link r.task (Text.cutBytes r.text maxLineBytes) with
    ⟨t, link', _ | ⟨⟩⟩
  · rw [sent] at calm
    obtain ⟨es, hes, a⟩ := transmit_error hk sent
    dsimp only
    rw [Trail.bind_world, Trail.bind_effects, hes, List.append_assoc]
    exact a.trans (giveUp (a.lt hk) ((calm.steady j).2.1.trans ha) link' _ none r r.task _)
  · have a := transmit_ok hk sent
    dsimp only
    exact a.trans ((updateFwd (f := fun f => { f with link := some link' }) j fun _ => ⟨rfl, rfl, rfl⟩).trans
      (echo j r))

theorem drainThenSend (hk : k < w.fwds.length) {j : Nat} (ha : (w.fwd j).state = .active)
    (env : Surroundings) (r : LogRecord) (link : Link) (pending : Nat) :
    Accounts k w (Trail.drainThenSend env w j r link pending).world
      (Trail.drainThenSend env w j r link pending).effects (Trail.drainTicks env w j r link pending) := by
  induction pending generalizing w link with
  | zero => exact sendLast hk ha env r link
  | succ pending ih =>
    rcases hd : (w.fwd j).backlog.map Backlog.drainOne with _ | ⟨b, _ | entry⟩
    · simp only [Trail.drainThenSend, Trail.drainTicks, hd]
      exact sendLast hk ha env r link
    · simp only [Trail.drainThenSend, Trail.drainTicks, hd]
      exact sendLast hk ha env r link
    · have calm₀ := World.calm_drainOne_of_map w j hd
      have taken : Accounts k w ((w.updateFwd j fun f => { f with backlog := some b }).count j
          fun s => { s with drained := s.drained + 1 }) [] [.drained j entry] :=
        (updateFwd (f := fun f => { f with backlog := some b }) j fun _ => ⟨rfl, rfl, rfl⟩).trans
          (drained ((updateFwd (f := fun f => { f with backlog := some b }) j fun _ => ⟨rfl, rfl, rfl⟩).lt hk) j entry)
      simp only [Trail.drainThenSend, Trail.drainTicks, Trail.transmitTicks, hd]
      generalize ((w.updateFwd j fun f => { f with backlog := some b }).count j
        fun s => { s with drained := s.drained + 1 }) = v at calm₀ taken ⊢
      have calm := Trail.calm_transmit v j env link entry.task entry.text
      rcases sent : Trail.transmit env v j link entry.task entry.text with ⟨t, link', _ | ⟨⟩⟩
      · rw [sent] at calm
        obtain ⟨es, hes, a⟩ := transmit_error (taken.lt hk) sent
        dsimp only
        rw [Trail.bind_world, Trail.bind_effects, hes, List.append_assoc]
        exact taken.trans (a.trans (giveUp (a.lt (taken.lt hk)) ((calm₀.trans calm).steady j |>.2.1.trans ha)
          link' _ (some entry) r entry.task entry.text))
      · rw [sent] at calm
        have a := transmit_ok (taken.lt hk) sent
        have relinked : Accounts k t.world (t.world.updateFwd j fun f => { f with link := some link' }) [] [] :=
          updateFwd j fun _ => ⟨rfl, rfl, rfl⟩
        have still : ((t.world.updateFwd j fun f => { f with link := some link' }).fwd j).state = .active := by
          simpa using ((calm₀.trans calm).steady j).2.1.trans ha
        dsimp only
        exact taken.trans (a.trans (relinked.trans (ih (relinked.lt (a.lt (taken.lt hk))) still link')))

theorem forward (hk : k < w.fwds.length) {j : Nat} (ha : (w.fwd j).state = .active) (env : Surroundings)
    (r : LogRecord) :
    Accounts k w (Trail.forward env w j r).world (Trail.forward env w j r).effects (Trail.forwardTicks env w j r) := by
  unfold Trail.forward Trail.forwardTicks
  split
  · exact defer hk j r
  · simp only [World.fwd_inside]
    cases (w.fwd j).link with
    | none => exact within ((inside true).trans (fallBack ((inside true).lt hk) j _ r)) _
    | some link => exact within ((inside true).trans (drainThenSend ((inside true).lt hk) ha env r link _)) _

theorem dispatch (hs : w.Sound) (hk : k < w.fwds.length) (env : Surroundings) (r : LogRecord) :
    Accounts k w (Trail.dispatch env w r).world (Trail.dispatch env w r).effects (Trail.dispatchTicks env w r) := by
  unfold Trail.dispatch Trail.dispatchTicks
  split
  · rename_i j hj
    simp only [hj]
    exact (took j r).trans (defer hk j r)
  · rename_i j hj
    simp only [hj]
    exact (took j r).trans (forward hk (hs.active_of_forwarding hj) env r)
  · rename_i s hb hf
    split
    · rename_i j hj
      exact absurd hj (hf j)
    · exact keep _ r rfl

theorem drainTaken (hk : k < w.fwds.length) (env : Surroundings) (j : Nat) (P : Sink) (link : Link)
    (es : List Entry) :
    Accounts k w (Trail.drainTaken env w j P link es).1.world (Trail.drainTaken env w j P link es).1.effects
      (Trail.drainTakenTicks env w j link es) := by
  induction es generalizing w link with
  | nil => exact refl w
  | cons e es ih =>
    have taken := drained hk j e
    simp only [Trail.drainTaken, Trail.drainTakenTicks, Trail.transmitTicks]
    generalize (w.count j fun s => { s with drained := s.drained + 1 }) = v at taken ⊢
    rcases sent : Trail.transmit env v j link e.task e.text with ⟨t, link', err | ⟨⟩⟩
    · obtain ⟨es', hes, a⟩ := transmit_error (taken.lt hk) sent
      have counted := failed (a.lt (taken.lt hk)) j e.task e.text err
      dsimp only
      rw [Trail.after_world, Trail.after_effects, hes, List.append_assoc]
      exact taken.trans (a.trans (counted.trans (fallBack (counted.lt (a.lt (taken.lt hk))) j P _)))
    · have a := transmit_ok (taken.lt hk) sent
      dsimp only
      exact taken.trans (a.trans (ih (a.lt (taken.lt hk)) link'))

theorem announce (hk : k < w.fwds.length) (env : Surroundings) (e : Event) :
    Accounts k w (Trail.announce env w e).world (Trail.announce env w e).effects [] := by
  unfold Trail.announce
  split
  · split
    · exact dispatchInside hk _
    · exact refl w
  · exact refl w

theorem announceAll (hk : k < w.fwds.length) (env : Surroundings) (es : List Event) :
    Accounts k w (Trail.announceAll env w es).world (Trail.announceAll env w es).effects [] := by
  induction es generalizing w with
  | nil => exact refl w
  | cons e es ih =>
    have first := announce hk env e
    exact first.trans (ih (first.lt hk))

theorem install (j : Nat) (s : Sink) : Accounts k w (w.install j s) [] [] where
  grows := by simp
  stats := by
    rw [World.install_fwd_view w j k s Forwarder.stats fun _ _ => rfl]
    rfl
  config := World.install_fwd_view w j k s Forwarder.config fun _ _ => rfl
  fired := by
    rw [World.install_fwd_view w j k s (fun f => f.boot.fired) fun _ _ => rfl]
    simp [tally]

theorem ite (c : Prop) [Decidable c] {x y : World} (hx : Accounts k w x [] []) (hy : Accounts k w y [] []) :
    Accounts k w (if c then x else y) [] [] := by
  split
  · exact hx
  · exact hy

theorem startBuffering (hk : k < w.fwds.length) (env : Surroundings) (j capacity : Nat) :
    Accounts k w (Trail.startBuffering env w j capacity).1.world (Trail.startBuffering env w j capacity).1.effects
      [] := by
  by_cases unused : (w.fwd j).state = .uninstalled
  · simp only [Trail.startBuffering, World.fwd_inside, unused, ne_eq, not_true_eq_false, ↓reduceIte]
    have installed : Accounts k w (((({ w with inside := true } : World).updateFwd j
        fun f => { f with backlog := some (Backlog.new capacity) }).install j (.buffering j)).updateFwd j
          fun f => { f with state := .earlyBuffering }) [] [] := by
      refine (((inside true).trans (updateFwd j ?_)).trans (install j _)).trans (updateFwd j ?_) <;>
        exact fun _ => ⟨rfl, rfl, rfl⟩
    exact within (installed.trans (announce (installed.lt hk) env _)) _
  · simp only [Trail.startBuffering, World.fwd_inside, unused, ne_eq, not_false_eq_true, ↓reduceIte]
    exact within (inside true) _

theorem activate (hk : k < w.fwds.length) (env : Surroundings) (j : Nat) (channel : Channel)
    (app : Option String) (raw mirror : Bool) :
    Accounts k w (Trail.activate env w j channel app raw mirror).1.world
      (Trail.activate env w j channel app raw mirror).1.effects [] := by
  rcases hst : (w.fwd j).state with _ | _ | _ | _ <;>
    simp only [Trail.activate, World.fwd_inside, hst]
  case active | restoring => exact within (inside true) _
  all_goals
    refine within (((((inside true).trans (updateFwd j ?_)).trans (ite _ (updateFwd j ?_) (refl _))).trans
      ((install j _).trans (updateFwd j ?_))).trans (announce ?_ env _)) _
    any_goals exact fun _ => ⟨rfl, rfl, rfl⟩
    by_cases hb : (w.fwd j).backlog = none <;> simpa [hb] using hk

theorem start (hk : k < w.fwds.length) (env : Surroundings) (j : Nat) (host : String) (port : Nat)
    (app : Option String) (raw mirror : Bool) :
    Accounts k w (Trail.start env w j host port app raw mirror).1.world
      (Trail.start env w j host port app raw mirror).1.effects [] := by
  have announced : ∀ es, Accounts k w (Trail.announceAll env { w with inside := true } es).world
      (Trail.announceAll env { w with inside := true } es).effects [] :=
    fun es => (inside true).trans (announceAll ((inside true).lt hk) env es)
  rcases hst : (w.fwd j).state with _ | _ | _ | _ <;> simp only [Trail.start, hst]
  case active | restoring => exact refl w
  all_goals
    split
    · exact within (announced _) _
    · split
      · exact within (announced _) _
      · rename_i l _
        refine within (((announced _).bind (announce ((announced _).lt hk) env _)).trans
          (activate ?_ env j (.udp l) app raw mirror)) _
        rw [Trail.bind_world, (Trail.calm_announce _ env _).length, (Trail.calm_announceAll _ env _).length]
        exact hk

/-- The end of a stop: the entries left are written back, then what `g` does
(a notice, or nothing), then the slot is given back and the stop announced. -/
theorem replay_release {x : World} (hk : k < x.fwds.length) (env : Surroundings) (j : Nat) (P : Sink)
    (rest : List Entry) {g : World → Trail} (hg : ∀ v, k < v.fwds.length → Accounts k v (g v).world (g v).effects [])
    (e : World → Event) :
    Accounts k x ((Trail.replay x j P rest).bind fun v => (g v).bind fun v =>
        Trail.announce env (((v.flush P).restoreIf j P).1.settle j) (e v)).world
      ((Trail.replay x j P rest).bind fun v => (g v).bind fun v =>
        Trail.announce env (((v.flush P).restoreIf j P).1.settle j) (e v)).effects [] := by
  have replayed := replay hk j P rest
  have told := hg _ (replayed.lt hk)
  have given := (restore (k := k) (w := (g (Trail.replay x j P rest).world).world) j P).trans (settle j)
  exact replayed.bind (told.bind (given.trans (announce (given.lt (told.lt (replayed.lt hk))) env _)))

theorem stop (hk : k < w.fwds.length) (env : Surroundings) (j : Nat) :
    Accounts k w (Trail.stop env w j).world (Trail.stop env w j).effects (Trail.stopTicks env w j) := by
  by_cases unused : (w.fwd j).state = .uninstalled
  · simp only [Trail.stop, Trail.stopTicks, World.fwd_inside, unused, ↓reduceIte]
    exact within (inside true) _
  simp only [Trail.stop, Trail.stopTicks, World.fwd_inside, unused, ↓reduceIte, World.takeLink, World.takeBacklog,
    World.link_updateFwd, World.backlog_updateFwd, World.previousSink_updateFwd, World.previousSink_inside,
    implies_true]
  have taken : Accounts k w (((({ w with inside := true } : World).updateFwd j
      fun f => { f with state := .restoring }).updateFwd j fun f => { f with link := none }).updateFwd j
        fun f => { f with backlog := none }) [] [] := by
    refine (((inside true).trans (updateFwd j ?_)).trans (updateFwd j ?_)).trans (updateFwd j ?_) <;>
      exact fun _ => ⟨rfl, rfl, rfl⟩
  generalize (((({ w with inside := true } : World).updateFwd j fun f => { f with state := .restoring }).updateFwd j
    fun f => { f with link := none }).updateFwd j fun f => { f with backlog := none }) = u at taken ⊢
  have hu := taken.lt hk
  have quietly : ∀ v, k < v.fwds.length → Accounts k v (Trail.idle v).world (Trail.idle v).effects [] :=
    fun v _ => refl v
  cases (w.fwd j).backlog with
  | none =>
    cases (w.fwd j).link with
    | none =>
      dsimp only
      exact within (taken.bind (replay_release hu env j _ [] quietly _)) _
    | some l =>
      dsimp only
      have c : Accounts k u (u.closeChannel l.channel) [] [] := closeChannel _
      exact within (taken.bind (c.trans (replay_release (c.lt hu) env j _ [] quietly _))) _
  | some b =>
    cases (w.fwd j).link with
    | none =>
      dsimp only
      exact within (taken.bind (replay_release hu env j _ b.entries quietly _)) _
    | some l =>
      dsimp only
      have drainedAll := drainTaken hu env j (w.previousSink j) l b.entries
      generalize Trail.drainTaken env u j (w.previousSink j) l b.entries = out at drainedAll ⊢
      obtain ⟨t, rest, failed⟩ := out
      have c : Accounts k t.world (t.world.closeChannel l.channel) [] [] := closeChannel _
      refine within (taken.trans (drainedAll.bind (c.trans (replay_release (c.lt (drainedAll.lt hu)) env j _ rest
        (fun v hv => ?_) _)))) _
      cases failed with
      | none => exact refl v
      | some e => exact notice hv j _ e

/-- Every operation a caller makes on a sound world raises each forwarder's
counters by what its effects and ticks tally. -/
theorem apply (hs : w.Sound) (hk : k < w.fwds.length) (env : Surroundings) (op : Op) :
    Accounts k w (Trail.apply env w op).world (Trail.apply env w op).effects (Trail.applyTicks env w op) := by
  cases op with
  | addForwarder config =>
    refine of_fwd (by simp [Trail.apply, World.addForwarder]) ?_ rfl
    rcases World.fwd_addForwarder w config k with same | ⟨fresh, -⟩
    · exact same
    · omega
  | log r => exact dispatch hs hk env r
  | earlyBuffering j capacity => exact startBuffering hk env j capacity
  | activate j x app raw mirror =>
    have added : Accounts k w (w.addWire (.scripted x)).1 [] [] := of_fwd (by simp [World.addWire]) rfl rfl
    exact added.trans (activate (added.lt hk) env j _ app raw mirror)
  | start j host port app raw mirror => exact start hk env j host port app raw mirror
  | stop j => exact stop hk env j
  | shutdown j => exact stop hk env j
  | install s => exact of_fwd (Nat.le_refl _) rfl rfl

/-- The run lemma: over any run of allowed operations from a world between
operations, each forwarder's counters rise by the tally of the run. -/
theorem run (hc : w.Coherent) (hk : k < w.fwds.length) (env : Surroundings) (ops : List Op)
    (hops : World.Allows env w ops) :
    Accounts k w (Trail.run env w ops).world (Trail.run env w ops).effects (Trail.runTicks env w ops) := by
  induction ops generalizing w with
  | nil => exact refl w
  | cons op ops ih =>
    obtain ⟨ho, hrest⟩ := hops
    have first := apply hc.sound hk env op
    have same := @World.apply_world env w hc.sound.plain op
    rw [← same] at hrest
    have next := ih (same ▸ hc.apply ho) (first.lt hk) hrest
    exact first.trans next

end Accounts

/-- Between operations, the trail semantics of a run leaves the world the run does. -/
theorem Trail.run_world {env : Surroundings} {w : World} (hc : w.Coherent) {ops : List Op}
    (hops : World.Allows env w ops) : (Trail.run env w ops).world = w.run env ops := by
  induction ops generalizing w with
  | nil => rfl
  | cons op ops ih =>
    obtain ⟨ho, hrest⟩ := hops
    have same := @World.apply_world env w hc.sound.plain op
    show (Trail.run env (Trail.apply env w op).world ops).world = (w.apply env op).run env ops
    rw [same]
    exact ih (hc.apply ho) hrest

theorem World.fwd_addForwarder_self (w : World) (config : Config) :
    (w.addForwarder config).1.fwd w.fwds.length = Forwarder.new config := by
  simp [World.addForwarder, World.fwd, List.getD_eq_getElem?_getD]

/-- A forwarder added to a reachable world counts, over any run of allowed
operations after it, the tally of that run. -/
theorem Reachable.stats_run {env : Surroundings} {w : World} (h : Reachable env w) (config : Config)
    {ops : List Op} (hops : World.Allows env (w.addForwarder config).1 ops) :
    let f := ((w.addForwarder config).1.run env ops).fwd w.fwds.length
    f.stats = tally w.fwds.length (Trail.run env (w.addForwarder config).1 ops).effects
        (Trail.runTicks env (w.addForwarder config).1 ops) ∧
      f.config = config ∧
      (f.boot.fired = true ↔ config.bootMark = .firstTransmit ∧ 0 < f.stats.sent) := by
  intro f
  have hc : (w.addForwarder config).1.Coherent :=
    (h.coherent.apply trivial : (w.apply env (.addForwarder config)).Coherent)
  have counted := Accounts.run (k := w.fwds.length) hc (by simp [World.addForwarder]) env ops hops
  have fresh := World.fwd_addForwarder_self w config
  have same : f = (Trail.run env (w.addForwarder config).1 ops).world.fwd w.fwds.length := by
    rw [Trail.run_world hc hops]
  have stats : f.stats = tally w.fwds.length (Trail.run env (w.addForwarder config).1 ops).effects
      (Trail.runTicks env (w.addForwarder config).1 ops) := by
    rw [same, counted.stats, fresh]
    exact Stats.zero_add _
  refine ⟨stats, ?_, ?_⟩
  · rw [same, counted.config]
    simp [fresh, Forwarder.new]
  · rw [same, counted.fired, ← same, stats]
    simp [fresh, Forwarder.new, BootSignal.new]

/-- **What the counters count.** After a forwarder is added to a reachable world,
each of its counters is its tally over the operations since. -/
theorem Reachable.counters_tally {env : Surroundings} {w : World} (h : Reachable env w) (config : Config)
    {ops : List Op} (hops : World.Allows env (w.addForwarder config).1 ops) :
    let F := w.fwds.length
    let stats := (((w.addForwarder config).1.run env ops).fwd F).stats
    let effects := (Trail.run env (w.addForwarder config).1 ops).effects
    let ticks := Trail.runTicks env (w.addForwarder config).1 ops
    stats.sent = effects.countP (Effect.sentBy F) ∧
    stats.failures = effects.countP (Effect.refusedBy F) ∧
    stats.drained = ticks.countP (Tick.drainedBy F) ∧
    stats.evicted = effects.countP (Effect.evictedBy F) ∧
    stats.buffered = effects.countP (Effect.storedBy F) ∧
    stats.locally = effects.countP (Effect.writtenBy F) ∧
    stats.retried = Tick.retries F ticks := by
  intro F stats effects ticks
  have tallied : stats = tally F effects ticks := (h.stats_run config hops).1
  rw [tallied]
  exact ⟨rfl, rfl, rfl, rfl, rfl, rfl, rfl⟩

/-- A forwarder added to the empty world, activated over a wire that lets
everything through and handed one record, counts as stated. -/
theorem activated_forwarder_counts :
    let env : Surroundings := ⟨Net.Machine.isolated, none⟩
    let config := Config.defaults none
    let ops := [Op.activate 0 (ScriptedWire.new none 0 []) none false false, .log ⟨none, "up\n"⟩]
    Reachable env World.empty ∧ World.Allows env (World.empty.addForwarder config).1 ops ∧
    (let F := World.empty.fwds.length
     let stats := (((World.empty.addForwarder config).1.run env ops).fwd F).stats
     let effects := (Trail.run env (World.empty.addForwarder config).1 ops).effects
     let ticks := Trail.runTicks env (World.empty.addForwarder config).1 ops
     stats.sent = effects.countP (Effect.sentBy F) ∧
     stats.failures = effects.countP (Effect.refusedBy F) ∧
     stats.drained = ticks.countP (Tick.drainedBy F) ∧
     stats.evicted = effects.countP (Effect.evictedBy F) ∧
     stats.buffered = effects.countP (Effect.storedBy F) ∧
     stats.locally = effects.countP (Effect.writtenBy F) ∧
     stats.retried = Tick.retries F ticks) := by
  intro env config ops
  have h : Reachable env World.empty := .start
  have hops : World.Allows env (World.empty.addForwarder config).1 ops :=
    ⟨⟨Nat.zero_lt_one, rfl⟩, trivial, trivial⟩
  exact ⟨h, hops, h.counters_tally config hops⟩

end SyslogRelay.Relay
