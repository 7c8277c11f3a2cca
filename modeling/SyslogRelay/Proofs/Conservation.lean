import SyslogRelay.Proofs.Lifecycle
import SyslogRelay.Proofs.LineBounds

/-!
Records pass through a forwarder without loss, duplication or reordering.
-/

namespace SyslogRelay.Backlog

open SyslogRelay.Text

/-- The texts of the entries, oldest first, run together. -/
def text (b : Backlog) : String := String.join (b.entries.map Entry.text)

/-- A backlog that can hold nothing holds nothing. -/
def Tidy (b : Backlog) : Prop := b.capacity = 0 → b.entries = []

/-- Appending the text of `task` loses nothing of it: no entry is pushed out
and, when the newest entry grows, it stays within the bound of an entry. -/
def Lossless (b : Backlog) (task : Option String) (s : String) : Bool :=
  (b.append task s).2 != .evicted &&
    match b.entries.getLast? with
    | some newest => !newest.isOpenFor task || decide (newest.text.utf8ByteSize + s.utf8ByteSize ≤ maxEntryBytes)
    | none => true

variable {b b' : Backlog} {task : Option String} {s : String}

@[simp] theorem text_new (capacity : Nat) : (Backlog.new capacity).text = "" := rfl

theorem tidy_new (capacity : Nat) : (Backlog.new capacity).Tidy := fun _ => rfl

theorem text_drainOne {e : Entry} (h : b.drainOne = (b', some e)) : b.text = e.text ++ b'.text := by
  unfold drainOne at h
  split at h
  · cases h
  · rename_i e' rest hb
    cases h
    simp [text, hb]

theorem text_drainOne_none (h : b.drainOne = (b', none)) : b.text = "" := by
  unfold drainOne at h
  split at h
  · rename_i hb
    simp [text, hb]
  · cases h

theorem tidy_drainOne {e : Entry} (h : b.drainOne = (b', some e)) (ht : b.Tidy) : b'.Tidy := by
  intro hc
  have kept := capacity_drainOne b
  have entries := drainOne_entries b
  rw [h] at kept entries
  rw [entries, ht (kept ▸ hc)]
  rfl

/-- A stored append keeps a backlog tidy: a backlog that stores has room. -/
theorem tidy_append {out : AppendOutcome} (h : b.append task s = (b', out)) (hs : out ≠ .disabled) :
    b'.Tidy := by
  intro hc
  have kept := capacity_append b task s
  rw [h] at kept
  have hc' : b.capacity = 0 := kept ▸ hc
  simp [append, hc'] at h
  exact absurd h.2.symm hs

/-- An append that stores nothing was refused for want of room or of text. -/
theorem append_disabled (h : (b.append task s).2 = .disabled) : b.capacity = 0 ∨ s = "" := by
  unfold append at h
  split at h
  · rename_i hc
    simpa [String.isEmpty_iff] using hc
  · split at h
    · split at h
      · cases h
      · unfold push at h
        split at h <;> cases h
    · unfold push at h
      split at h <;> cases h

/-- A lossless append adds the text, whole, after what the backlog held. -/
theorem text_append {out : AppendOutcome} (h : b.append task s = (b', out)) (hs : out ≠ .disabled)
    (hl : b.Lossless task s = true) (hb : s.utf8ByteSize ≤ maxEntryBytes) :
    b'.text = b.text ++ s := by
  have kept : (b.append task s).2 ≠ .evicted := by
    simp only [Lossless, Bool.and_eq_true, bne_iff_ne] at hl
    exact hl.1
  rw [h] at kept
  have pushed : (b.push task s).2 ≠ .evicted → (b.push task s).1.text = b.text ++ s := by
    intro hp
    unfold push at hp ⊢
    split
    · rename_i hfull
      simp [hfull] at hp
    · simp [text, cutBytes_of_le hb]
  unfold append at h
  split at h
  · cases h
    exact absurd rfl hs
  · split at h
    · rename_i newest hlast
      split at h
      · rename_i hopen
        cases h
        have fits : newest.text.utf8ByteSize + s.utf8ByteSize ≤ maxEntryBytes := by
          simp only [Lossless, Bool.and_eq_true, hlast, hopen, Bool.not_true, Bool.false_or,
            decide_eq_true_eq] at hl
          exact hl.2
        have whole : cutBytes s (maxEntryBytes - newest.text.utf8ByteSize) = s :=
          cutBytes_of_le (by omega)
        obtain ⟨front, hfront⟩ := List.getLast?_eq_some_iff.mp hlast
        simp [text, hfront, whole, String.append_assoc]
      · rw [← pushed (by rw [h]; exact kept), h]
    · rw [← pushed (by rw [h]; exact kept), h]

end SyslogRelay.Backlog

namespace SyslogRelay.Relay

open SyslogRelay.Text

namespace Effect

/-- The text an effect hands on for forwarder `k`: a send that went through, or
a record written or copied to the sink it replaced. A notice hands on nothing. -/
def handed (k : Nat) : Effect → String
  | .sent j _ text => if j = k then text else ""
  | .wrote j _ r => if j = k then r.text else ""
  | .mirrored j _ r => if j = k then r.text else ""
  | _ => ""

/-- The text of a record that forwarder `k`'s sink took from the slot. -/
def taken (k : Nat) : Effect → String
  | .took j r => if j = k then r.text else ""
  | _ => ""

/-- What a run of forwarder `k` asks of an effect: a record it took fits a line,
and a text it stored went in whole. -/
def fits (k : Nat) : Effect → Bool
  | .took j r => j != k || decide (r.text.utf8ByteSize ≤ maxLineBytes)
  | .stored j b task text => j != k || b.Lossless task text
  | _ => true

end Effect

/-- What forwarder `k` handed on, in order. -/
def handed (k : Nat) (es : List Effect) : String := String.join (es.map (Effect.handed k))

/-- What forwarder `k` took, in order. -/
def taken (k : Nat) (es : List Effect) : String := String.join (es.map (Effect.taken k))

/-- Every effect meets what a run of forwarder `k` asks. -/
def Fits (k : Nat) (es : List Effect) : Prop := ∀ e ∈ es, e.fits k = true

instance (k : Nat) (es : List Effect) : Decidable (Fits k es) :=
  inferInstanceAs (Decidable (∀ e ∈ es, e.fits k = true))

section Accounts

variable (k : Nat) (e : Effect) (es es' : List Effect)

@[simp] theorem handed_nil : handed k [] = "" := rfl
@[simp] theorem handed_cons : handed k (e :: es) = e.handed k ++ handed k es := by
  simp [handed, String.join_cons]
@[simp] theorem handed_append : handed k (es ++ es') = handed k es ++ handed k es' := by
  simp [handed, String.join_append]
@[simp] theorem taken_nil : taken k [] = "" := rfl
@[simp] theorem taken_cons : taken k (e :: es) = e.taken k ++ taken k es := by
  simp [taken, String.join_cons]
@[simp] theorem taken_append : taken k (es ++ es') = taken k es ++ taken k es' := by
  simp [taken, String.join_append]

theorem fits_append : Fits k (es ++ es') ↔ Fits k es ∧ Fits k es' := by
  simp only [Fits, List.mem_append, or_imp, forall_and]

end Accounts

namespace World

/-- What waits in forwarder `k`'s backlog, oldest first. -/
def waiting (w : World) (k : Nat) : String := ((w.fwd k).backlog.map Backlog.text).getD ""

/-- No wire logs a record while it sends. -/
def Quiet (w : World) : Prop := ∀ i x, w.wire i = some x → x.onSend = []

/-- The slot holds no sink of a forwarder other than `k`. -/
def SlotOnly (w : World) (k : Nat) : Prop :=
  ∀ j, (w.slot.sink = .buffering j ∨ w.slot.sink = .forwarding j) → j = k

end World

/-- A forwarder whose backlog, if any, is tidy. -/
def Forwarder.Tidy (f : Forwarder) : Prop := ∀ b, f.backlog = some b → b.Tidy

/-- A forwarder that does not copy records to the sink it replaced, and whose
settings do not make it start again. -/
def Forwarder.Unmirrored (f : Forwarder) : Prop := f.mirror = false ∧ f.config.mirror = false

namespace World

variable {w v : World} {k : Nat}

theorem waiting_eq (h : (v.fwd k).backlog = (w.fwd k).backlog) : v.waiting k = w.waiting k := by
  simp only [waiting, h]

theorem waiting_none (h : (w.fwd k).backlog = none) : w.waiting k = "" := by
  simp [waiting, h]

/-- When the drain loop finds no entry to take, nothing waits. -/
theorem waiting_of_undrained (h : ∀ b e, (w.fwd k).backlog.map Backlog.drainOne = some (b, some e) → False) :
    w.waiting k = "" := by
  cases hb : (w.fwd k).backlog with
  | none => exact waiting_none hb
  | some b0 =>
    rcases hd : b0.drainOne with ⟨b, _ | e⟩
    · simp [waiting, hb, Backlog.text_drainOne_none hd]
    · exact (h b e (by simp [hb, hd])).elim

/-- A step of the drain loop takes the oldest waiting entry: its text comes
first in what waits, and the rest is one entry shorter and as tidy. -/
theorem waiting_drained {b : Backlog} {e : Entry}
    (hd : (w.fwd k).backlog.map Backlog.drainOne = some (b, some e)) :
    w.waiting k = e.text ++ b.text ∧ b.len + 1 = (w.fwd k).buffered ∧ ((w.fwd k).Tidy → b.Tidy) := by
  obtain ⟨b0, hb0, hdrain⟩ := Option.map_eq_some_iff.mp hd
  have hlen := Backlog.len_drainOne b0 e (by simp [hdrain])
  simp only [hdrain] at hlen
  refine ⟨by simp [waiting, hb0, Backlog.text_drainOne hdrain], ?_, fun h => Backlog.tidy_drainOne hdrain (h b0 hb0)⟩
  simp [Forwarder.buffered, hb0, hlen]

theorem Quiet.calm (hq : w.Quiet) (h : Calm w v) : v.Quiet := by
  intro i x hx
  have same := h.onSend i
  rw [hx, Option.map_some] at same
  obtain ⟨y, hy, hxy⟩ := Option.map_eq_some_iff.mp same.symm
  rw [← hxy]
  exact hq i y hy

theorem Quiet.updateFwd (hq : w.Quiet) (k : Nat) (f : Forwarder → Forwarder) : (w.updateFwd k f).Quiet := hq

theorem Quiet.updateWire (hq : w.Quiet) (n : Nat) {g : Wire → Wire} (hg : ∀ x, (g x).onSend = x.onSend) :
    (w.updateWire n g).Quiet := by
  intro i x hx
  have hx' : (w.wires.modify n g)[i]? = some x := hx
  rw [List.getElem?_modify] at hx'
  cases hy : w.wires[i]? with
  | none => simp [hy] at hx'
  | some y =>
    have quiet := hq i y hy
    simp only [hy, Option.map_eq_map, Option.map_some, Option.some.injEq] at hx'
    subst hx'
    split <;> simp [hg, quiet]

theorem Quiet.closeChannel (hq : w.Quiet) (c : Channel) : (w.closeChannel c).Quiet := by
  cases c with
  | udp _ => exact hq
  | wire n =>
    refine hq.updateWire n fun x => ?_
    cases x <;> rfl

end World

namespace Trail

variable {w : World} {k : Nat}

theorem effects_sendScripted (hq : w.Quiet) (i : Nat) (p : String) : (sendScripted w i p).1.effects = [] := by
  unfold sendScripted
  split
  · rename_i s hs
    have quiet : s.onSend = [] := hq i _ hs
    simp [logAttempt, quiet, dispatchAllInside]
  · rfl

theorem fwds_sendScripted (hq : w.Quiet) (i : Nat) (p : String) : (sendScripted w i p).1.world.fwds = w.fwds := by
  unfold sendScripted
  split
  · rename_i s hs
    have quiet : s.onSend = [] := hq i _ hs
    simp only [logAttempt, quiet, dispatchAllInside, idle_world]
    rw [fwds_settleSend]
    rfl
  · rfl

/-- Over wires that log nothing, a send touches no backlog. -/
theorem backlog_transmit (hq : w.Quiet) (env : Surroundings) (link : Link) (task : Option String) (text : String)
    (j : Nat) : ((transmit env w k link task text).1.world.fwd j).backlog = (w.fwd j).backlog := by
  unfold transmit
  dsimp only
  split
  · rename_i i _
    have same : ((sendScripted w i (link.encoder.encode text task)).1.world.fwd j) = w.fwd j := by
      simp only [World.fwd, fwds_sendScripted hq]
    split
    · rename_i t heq
      rw [heq] at same
      rw [backlog_countSent, same]
    · rename_i t e heq
      rw [heq] at same
      rw [same]
  · split
    · rw [backlog_countSent]
      rfl
    · rfl

/-- Over wires that log nothing, a send has one effect: it went through or
failed. -/
theorem effects_transmit (hq : w.Quiet) (env : Surroundings) (link : Link) (task : Option String)
    (text : String) :
    (transmit env w k link task text).1.effects =
      match (transmit env w k link task text).2.2 with
      | .ok () => [.sent k task text]
      | .error e => [.refused k task text e] := by
  unfold transmit
  dsimp only
  split
  · rename_i i _
    split
    · rename_i t heq
      have quiet : t.effects = [] := by simpa [heq] using effects_sendScripted hq i (link.encoder.encode text task)
      simp [quiet]
    · rename_i t e heq
      have quiet : t.effects = [] := by simpa [heq] using effects_sendScripted hq i (link.encoder.encode text task)
      simp [quiet]
  · split <;> rfl

end Trail

/-- A trail that moves the records of forwarder `k`: it hands on what waited in `w`
and then `s`, save what still waits at its end. -/
structure Conveys (k : Nat) (w : World) (s : String) (t : Trail) : Prop where
  order : handed k t.effects ++ t.world.waiting k = w.waiting k ++ s
  untaken : taken k t.effects = ""
  tidy : (w.fwd k).Tidy → (t.world.fwd k).Tidy

namespace Conveys

variable {k : Nat} {w : World} {s s' : String} {t : Trail}

theorem idle (k : Nat) (w : World) : Conveys k w "" (Trail.idle w) where
  order := by simp
  untaken := rfl
  tidy := id

theorem bind (h : Conveys k w s t) {f : World → Trail} (h' : Conveys k t.world s' (f t.world)) :
    Conveys k w (s ++ s') (t.bind f) where
  order := by
    simp only [Trail.bind_effects, Trail.bind_world, handed_append, String.append_assoc]
    rw [h'.order, ← String.append_assoc, h.order, String.append_assoc]
  untaken := by simp [h.untaken, h'.untaken]
  tidy ht := h'.tidy (h.tidy ht)

/-- A trail that hands on and takes nothing of forwarder `k` and leaves its
backlog as it was. -/
theorem still (hh : handed k t.effects = "") (ht : taken k t.effects = "")
    (hb : (t.world.fwd k).backlog = (w.fwd k).backlog) : Conveys k w "" t where
  order := by rw [hh, World.waiting_eq hb]; simp
  untaken := ht
  tidy h b hb' := h b (hb ▸ hb')

/-- The same hand-over seen from another world: one where the same text waits
once `s` is put after it. -/
theorem rebase {u : World} (h : Conveys k u s' t) (hw : u.waiting k ++ s' = w.waiting k ++ s)
    (ht : (w.fwd k).Tidy → (u.fwd k).Tidy) : Conveys k w s t where
  order := by rw [h.order, hw]
  untaken := h.untaken
  tidy h' := h.tidy (ht h')

/-- A first trail that hands on and takes nothing changes no hand-over. -/
theorem silent {f : World → Trail} (hh : handed k t.effects = "") (ht : taken k t.effects = "")
    (h : Conveys k w s (f t.world)) : Conveys k w s (t.bind f) where
  order := by simp only [Trail.bind_effects, Trail.bind_world, handed_append, hh, String.empty_append, h.order]
  untaken := by simp [ht, h.untaken]
  tidy := h.tidy

theorem within (h : Conveys k w s t) (b : Bool) : Conveys k w s (t.within b) :=
  ⟨h.order, h.untaken, h.tidy⟩

/-- A first trail that hands on the front of what waits, leaving nothing
waiting but the text `s'` that the rest hands on. -/
theorem lead {f : World → Trail} (hh : handed k t.effects ++ s' = w.waiting k) (ht : taken k t.effects = "")
    (hw : t.world.waiting k = "") (tidy : (w.fwd k).Tidy → (t.world.fwd k).Tidy)
    (h : Conveys k t.world s' (f t.world)) : Conveys k w "" (t.bind f) where
  order := by
    have rest := h.order
    rw [hw, String.empty_append] at rest
    simp only [Trail.bind_effects, Trail.bind_world, handed_append, String.append_assoc, rest, hh,
      String.append_empty]
  untaken := by simp [ht, h.untaken]
  tidy h' := h.tidy (tidy h')

/-- Handing a link back to forwarder `k` changes no hand-over. -/
theorem of_relinked {l : Option Link} (h : Conveys k (w.updateFwd k fun f => { f with link := l }) s t) :
    Conveys k w s t := by
  have same : ((w.updateFwd k fun f => { f with link := l }).fwd k).backlog = (w.fwd k).backlog :=
    World.backlog_updateFwd _ _ _ (fun f => { f with link := l }) fun _ => rfl
  exact h.rebase (by rw [World.waiting_eq same]) fun h' b hb => h' b (same ▸ hb)

end Conveys

namespace Trail

variable {w : World} {k : Nat} {r : LogRecord}

/-- Writing a record to the sink forwarder `k` replaced hands it on; it comes
in order when nothing waits, or when it has no text. -/
theorem conveys_fallBack (P : Sink) (r : LogRecord) (hw : w.waiting k = "" ∨ r.text = "") :
    Conveys k w r.text (fallBack w k P r) where
  order := by
    rw [World.waiting_eq (backlog_fallBack w k k P r)]
    rcases hw with hw | hw <;> simp [fallBack, Effect.handed, hw]
  untaken := by simp [fallBack, Effect.taken]
  tidy h b hb := h b (by rwa [backlog_fallBack] at hb)

theorem conveys_notice (P : Sink) (e : Net.LinkError) : Conveys k w "" (notice w k P e) :=
  Conveys.still (by simp [notice, Effect.handed]) (by simp [notice, Effect.taken])
    (by rw [notice_world, backlog_fallBack])

/-- Replaying entries, once nothing waits, hands on their texts in order. -/
theorem conveys_replay (hw : w.waiting k = "") (P : Sink) (es : List Entry) :
    Conveys k w (String.join (es.map Entry.text)) (replay w k P es) := by
  induction es generalizing w with
  | nil => exact Conveys.idle k w
  | cons e es ih =>
    have first := conveys_fallBack P (LogRecord.ofEntry e) (Or.inl hw)
    have rest := ih (w := (fallBack w k P (LogRecord.ofEntry e)).world)
      (by rw [World.waiting_eq (backlog_fallBack w k k P _)]; exact hw)
    simpa [replay, String.join_cons, LogRecord.ofEntry] using first.bind rest

theorem conveys_echo (hm : (w.fwd k).mirror = false) (r : LogRecord) : Conveys k w "" (echo w k r) := by
  unfold echo
  rw [if_neg (by simp [hm])]
  exact Conveys.idle k w

/-- Storing a text hands nothing on: what waits is then what the grown backlog
holds. -/
theorem conveys_stored {v : World} {b b' : Backlog} {s : String} (hb : (w.fwd k).backlog = some b)
    (hv : (v.fwd k).backlog = some b') (hm : (v.fwd k).mirror = false) (grown : b'.text = b.text ++ s)
    (tidy : b'.Tidy) (task : Option String) (text : String) (r : LogRecord) :
    Conveys k w s ((echo v k r).after [.stored k b task text]) where
  order := by
    have quiet := (conveys_echo hm r).order
    simp only [World.waiting, hv, Option.map_some, Option.getD_some] at quiet
    simp only [after_effects, after_world, handed_append, handed_cons, Effect.handed, handed_nil,
      String.empty_append, World.waiting, hb, Option.map_some, Option.getD_some]
    rw [quiet, grown, String.append_empty]
  untaken := by simp [Effect.taken, (conveys_echo hm r).untaken]
  tidy _ b'' hb'' := by
    rw [after_world, backlog_echo, hv] at hb''
    cases hb''
    exact tidy

/-- A deferred record that fits a line goes in whole after what waits, or, when
the backlog cannot take it, is handed on at once. -/
theorem conveys_defer (hm : (w.fwd k).mirror = false) (ht : (w.fwd k).Tidy)
    (hr : r.text.utf8ByteSize ≤ maxLineBytes) (hf : Fits k (defer w k r).effects) :
    Conveys k w r.text (defer w k r) := by
  have whole : Text.cutBytes r.text maxLineBytes = r.text := cutBytes_of_le hr
  unfold defer at hf ⊢
  simp only [whole] at hf ⊢
  cases hb : (w.fwd k).backlog with
  | none =>
    simp only
    exact conveys_fallBack _ r (Or.inl (World.waiting_none hb))
  | some b =>
    simp only [hb] at hf ⊢
    split
    · rename_i b'' heq
      have refused := Backlog.append_disabled (by rw [heq])
      refine conveys_fallBack _ r ?_
      rcases refused with hc | he
      · left
        simp [World.waiting, hb, Backlog.text, ht b hb hc]
      · exact Or.inr he
    · rename_i b' out hne heq
      have hk : k < w.fwds.length := World.lt_length_of_backlog w k hb
      have hl : b.Lossless r.task r.text = true := by
        simp only [heq] at hf
        simpa [Effect.fits] using hf (.stored k b r.task r.text) (by simp)
      have kept : out ≠ .evicted := by
        simp only [Backlog.Lossless, Bool.and_eq_true, bne_iff_ne, heq] at hl
        exact hl.1
      have grown := Backlog.text_append heq hne hl (by unfold maxLineBytes at hr; unfold maxEntryBytes; omega)
      rw [if_neg kept]
      refine conveys_stored hb ?_ ?_ grown (Backlog.tidy_append heq hne) _ _ r
      · simp [World.count, World.fwd_updateFwd, hk]
      · simp [World.count, World.fwd_updateFwd, hk, hm]

@[simp] theorem backlog_settle (w : World) (k j : Nat) : ((w.settle k).fwd j).backlog = (w.fwd j).backlog :=
  World.fwd_updateFwd_view w k j _ Forwarder.backlog fun _ => rfl

theorem backlog_replay (w : World) (k j : Nat) (P : Sink) (es : List Entry) :
    ((replay w k P es).world.fwd j).backlog = (w.fwd j).backlog := by
  induction es generalizing w with
  | nil => rfl
  | cons e es ih => rw [replay, bind_world, ih, backlog_fallBack]

/-- Giving the slot back, once forwarder `k` has settled, hands nothing on. -/
theorem conveys_release (w : World) (k : Nat) (P : Sink) :
    Conveys k w "" (idle (((w.flush P).restoreIf k P).1.settle k)) :=
  Conveys.still rfl rfl (by simp)

theorem backlog_takeBacklog (u : World) (k : Nat) : ((u.takeBacklog k).1.fwd k).backlog = none := by
  simp only [World.takeBacklog]
  rw [World.fwd_updateFwd]
  split
  · rfl
  · rename_i hk
    rw [World.fwd_of_length_le u k (by simp at hk ⊢; omega)]
    rfl

/-- Giving up while active hands on what waits and then the record. -/
theorem conveys_disable (m : World) (k : Nat) (err : Net.LinkError) (P : Sink) (r : LogRecord) :
    Conveys k m r.text (disable m k err P r) := by
  have rest : ∀ t : Trail, (t.world.fwd k).backlog = none →
      Conveys k t.world ("" ++ (r.text ++ "")) ((notice t.world k P err).bind fun w =>
        (fallBack w k P r).bind fun w => idle (((w.flush P).restoreIf k P).1.settle k)) := by
    intro t ht
    refine (conveys_notice P err).bind ((conveys_fallBack P r (Or.inl ?_)).bind (conveys_release _ k P))
    rw [World.waiting_none]
    rw [notice_world, backlog_fallBack, ht]
  have counted : (((m.updateFwd k fun f => { f with state := .restoring }).count k
      fun s => { s with failures := s.failures + 1 }).fwd k).backlog = (m.fwd k).backlog := by
    rw [backlog_count, World.backlog_updateFwd _ _ _ (fun f => { f with state := .restoring }) fun _ => rfl]
  have taken := backlog_takeBacklog ((m.updateFwd k fun f => { f with state := .restoring }).count k
      fun s => { s with failures := s.failures + 1 }) k
  simp only [World.takeBacklog] at taken
  simp only [disable, World.takeBacklog, counted]
  generalize ((m.updateFwd k fun f => { f with state := .restoring }).count k
      fun s => { s with failures := s.failures + 1 }).updateFwd k (fun f => { f with backlog := none }) = u at taken
  have tidy : (u.fwd k).Tidy := fun b hb => by rw [taken] at hb; cases hb
  cases hb : (m.fwd k).backlog with
  | none =>
    refine (rest (idle u) taken).rebase ?_ fun _ => tidy
    simp [World.waiting_none taken, World.waiting_none hb]
  | some b =>
    have replayed := conveys_replay (World.waiting_none taken) P b.entries
    refine (replayed.bind (rest _ (by rw [backlog_replay, taken]))).rebase ?_ fun _ => tidy
    simp [World.waiting, taken, hb, Backlog.text]

/-- Tearing down after a failed send hands on the entry that failed, then what
waits, then the record. -/
theorem conveys_teardown {m : World} (ha : (m.fwd k).state = .active) (err : Net.LinkError)
    (unsent : Option Entry) (r : LogRecord)
    (hw : w.waiting k = (unsent.map Entry.text).getD "" ++ m.waiting k) (ht : (w.fwd k).Tidy → (m.fwd k).Tidy) :
    Conveys k w r.text (teardown m k err unsent r) := by
  unfold teardown
  cases unsent with
  | none =>
    simp only [bind, idle, after, ha, ne_eq, not_true_eq_false, ↓reduceIte, List.nil_append]
    exact (conveys_disable m k err _ r).rebase (by simpa using hw.symm) ht
  | some e =>
    have written := calm_fallBack m k (m.previousSink k) (LogRecord.ofEntry e)
    have still : ((fallBack m k (m.previousSink k) (LogRecord.ofEntry e)).world.fwd k).state = .active := by
      rw [(written.steady k).2.1, ha]
    have rest := conveys_disable (fallBack m k (m.previousSink k) (LogRecord.ofEntry e)).world k err
      (m.previousSink k) r
    dsimp only
    simp only [bind]
    rw [if_neg (by rw [still]; exact fun h => h rfl)]
    refine ⟨?_, ?_, fun h => ?_⟩
    · rw [after_effects, after_world, handed_append, String.append_assoc, rest.order,
        World.waiting_eq (backlog_fallBack m k k _ _), hw]
      simp [fallBack, Effect.handed, LogRecord.ofEntry, String.append_assoc]
    · rw [after_effects, taken_append, rest.untaken]
      simp [fallBack, Effect.taken]
    · refine rest.tidy fun b hb => ?_
      rw [backlog_fallBack] at hb
      exact ht h b hb

theorem conveys_giveUp {v : World} (ha : (v.fwd k).state = .active) (link : Link) (err : Net.LinkError)
    (unsent : Option Entry) (r : LogRecord)
    (hw : w.waiting k = (unsent.map Entry.text).getD "" ++ v.waiting k) (ht : (w.fwd k).Tidy → (v.fwd k).Tidy) :
    Conveys k w r.text (giveUp v k link err unsent r) := by
  have same : (((v.updateFwd k fun f => { f with link := none }).closeChannel link.channel).fwd k) =
      (v.updateFwd k fun f => { f with link := none }).fwd k := World.closeChannel_fwd _ _ k
  have kept : (((v.updateFwd k fun f => { f with link := none }).closeChannel link.channel).fwd k).backlog =
      (v.fwd k).backlog := by
    rw [same, World.backlog_updateFwd _ _ _ (fun f => { f with link := none }) fun _ => rfl]
  refine conveys_teardown ?_ err unsent r ?_ fun h b hb => ht h b (kept ▸ hb)
  · rw [same, World.state_updateFwd _ _ _ (fun f => { f with link := none }) fun _ => rfl, ha]
  · rw [World.waiting_eq kept, hw]

/-- Sending the record once nothing waits hands it on, whether the send goes
through or the forwarder gives up. -/
theorem conveys_sendLast (hq : w.Quiet) (ha : (w.fwd k).state = .active) (hm : (w.fwd k).mirror = false)
    (hw : w.waiting k = "") (hr : r.text.utf8ByteSize ≤ maxLineBytes) (env : Surroundings) (link : Link) :
    Conveys k w r.text (sendLast env w k r link) := by
  have whole := cutBytes_of_le hr
  have calm := calm_transmit w k env link r.task (cutBytes r.text maxLineBytes)
  have kept := backlog_transmit (k := k) hq env link r.task (cutBytes r.text maxLineBytes) k
  have said := effects_transmit (k := k) hq env link r.task (cutBytes r.text maxLineBytes)
  unfold sendLast
  generalize transmit env w k link r.task (cutBytes r.text maxLineBytes) = out at calm kept said
  rcases out with ⟨t, link', _ | ⟨⟩⟩ <;> dsimp only at calm kept said ⊢
  · refine Conveys.silent (by simp [said, Effect.handed]) (by simp [said, Effect.taken]) ?_
    exact conveys_giveUp ((calm.steady k).2.1.trans ha) link' _ none r
      (by simp [World.waiting_eq kept, hw]) fun h b hb => h b (kept ▸ hb)
  · have sent : Conveys k w r.text t :=
      ⟨by simp [said, Effect.handed, whole, World.waiting_eq kept, hw], by simp [said, Effect.taken],
        fun h b hb => h b (kept ▸ hb)⟩
    have echoed := conveys_echo (w := t.world.updateFwd k fun f => { f with link := some link' }) (k := k)
      (by rw [World.fwd_updateFwd_view _ k k (fun f => { f with link := some link' }) Forwarder.mirror fun _ => rfl,
        (calm.steady k).2.2.2.2.1, hm]) r
    have both := sent.bind (f := fun w => echo (w.updateFwd k fun f => { f with link := some link' }) k r)
      echoed.of_relinked
    rwa [String.append_empty] at both

theorem waiting_of_buffered {w : World} (h : (w.fwd k).buffered = 0) : w.waiting k = "" := by
  cases hb : (w.fwd k).backlog with
  | none => exact World.waiting_none hb
  | some b =>
    simp only [Forwarder.buffered, hb, Option.map_some, Option.getD_some, Backlog.len,
      List.length_eq_zero_iff] at h
    simp [World.waiting, hb, Backlog.text, h]

/-- The drain loop hands on every entry that waits, in order, and then the
record; a failed send gives up and hands on the rest the same way. -/
theorem conveys_drainThenSend (env : Surroundings) (r : LogRecord) (hr : r.text.utf8ByteSize ≤ maxLineBytes)
    (pending : Nat) {w : World} {link : Link} (hq : w.Quiet) (ha : (w.fwd k).state = .active)
    (hm : (w.fwd k).mirror = false) (hp : (w.fwd k).buffered = pending) :
    Conveys k w r.text (drainThenSend env w k r link pending) := by
  fun_induction drainThenSend env w k r link pending with
  | case1 w link => exact conveys_sendLast hq ha hm (waiting_of_buffered hp) hr env link
  | case4 w link _ none => exact conveys_sendLast hq ha hm (World.waiting_of_undrained none) hr env link
  | case2 w link pending b entry hd v u t link' sent ih =>
    obtain ⟨front, less, tidy⟩ := World.waiting_drained hd
    have shorter : b.len = pending := by omega
    have calmed := World.calm_drainOne_of_map w k hd
    have left := backlog_drained w k hd
    have c := calmed.trans (calm_transmit u k env link entry.task entry.text)
    have kept := backlog_transmit (k := k) (hq.calm calmed) env link entry.task entry.text k
    have said := effects_transmit (k := k) (hq.calm calmed) env link entry.task entry.text
    rw [sent] at c kept said
    dsimp only at said
    have rest : t.world.waiting k = b.text := by simp [World.waiting, kept, left]
    have first : Conveys k w "" t :=
      ⟨by rw [said, rest, front]; simp [Effect.handed],
        by simp [said, Effect.taken], fun h b' hb' => by rw [kept, left] at hb'; cases hb'; exact tidy h⟩
    have later := ih t.world ((hq.calm c).updateFwd k _)
      (by rw [World.state_updateFwd _ _ _ (fun f => { f with link := some link' }) fun _ => rfl,
        (c.steady k).2.1, ha])
      (by rw [World.fwd_updateFwd_view _ k k (fun f => { f with link := some link' }) Forwarder.mirror
        fun _ => rfl, (c.steady k).2.2.2.2.1, hm])
      (by simp [Forwarder.buffered, kept, left, shorter])
    have both := first.bind (f := fun w => drainThenSend env (w.updateFwd k fun f => { f with link := some link' })
      k r link' pending) later.of_relinked
    rwa [String.empty_append] at both
  | case3 w link pending b entry hd v u t link' err failed =>
    obtain ⟨front, -, tidy⟩ := World.waiting_drained hd
    have calmed := World.calm_drainOne_of_map w k hd
    have left := backlog_drained w k hd
    have c := calmed.trans (calm_transmit u k env link entry.task entry.text)
    have kept := backlog_transmit (k := k) (hq.calm calmed) env link entry.task entry.text k
    have said := effects_transmit (k := k) (hq.calm calmed) env link entry.task entry.text
    rw [failed] at c kept said
    dsimp only at said
    have rest : t.world.waiting k = b.text := by simp [World.waiting, kept, left]
    refine Conveys.silent (by simp [said, Effect.handed]) (by simp [said, Effect.taken]) ?_
    refine conveys_giveUp ((c.steady k).2.1.trans ha) link' _ (some entry) r ?_ fun h b' hb' => ?_
    · rw [rest, front]
      rfl
    · rw [kept, left] at hb'
      cases hb'
      exact tidy h

/-- An active forwarder hands a record on after everything that waits, or
stores it behind them. -/
theorem conveys_forward (hs : w.Sound) (ha : (w.fwd k).state = .active) (hq : w.Quiet)
    (hm : (w.fwd k).mirror = false) (ht : (w.fwd k).Tidy) (hr : r.text.utf8ByteSize ≤ maxLineBytes)
    (env : Surroundings) (hf : Fits k (forward env w k r).effects) : Conveys k w r.text (forward env w k r) := by
  unfold forward at hf ⊢
  split
  · rename_i hc
    rw [if_pos hc] at hf
    exact conveys_defer hm ht hr hf
  · refine Conveys.within ?_ _
    split
    · rename_i hl
      have unlinked : (w.fwd k).link = none := hl
      have shaped := hs.shaped k
      simp [Forwarder.shaped, ha, unlinked] at shaped
    · rename_i link hl
      exact Conveys.rebase (conveys_drainThenSend (w := { w with inside := true }) env r hr _ hq ha hm rfl)
        rfl id

/-- Draining a backlog taken at a stop hands on its entries in order: those
sent and, after a failed send, the one that failed; the rest is left to be
written. -/
theorem hands_drainTaken (env : Surroundings) (P : Sink) (link : Link) (es : List Entry) {w : World}
    (hq : w.Quiet) :
    handed k (drainTaken env w k P link es).1.effects ++ String.join ((drainTaken env w k P link es).2.1.map Entry.text)
      = String.join (es.map Entry.text) ∧
    taken k (drainTaken env w k P link es).1.effects = "" ∧
    ((drainTaken env w k P link es).1.world.fwd k).backlog = (w.fwd k).backlog := by
  induction es generalizing w link with
  | nil => simp [drainTaken]
  | cons e es ih =>
    have counted := World.calm_count w k fun s => { s with drained := s.drained + 1 }
    have kept := backlog_transmit (k := k) (hq.calm counted) env link e.task e.text k
    have said := effects_transmit (k := k) (hq.calm counted) env link e.task e.text
    have calm := calm_transmit (w.count k fun s => { s with drained := s.drained + 1 }) k env link e.task e.text
    simp only [drainTaken]
    generalize transmit env _ k link e.task e.text = out at kept said calm
    rcases out with ⟨t, link', _ | ⟨⟩⟩ <;> dsimp only at kept said calm ⊢
    · refine ⟨?_, ?_, ?_⟩
      · simp [said, fallBack, Effect.handed, LogRecord.ofEntry, String.join_cons]
      · simp [said, fallBack, Effect.taken]
      · rw [after_world, backlog_fallBack, backlog_count, kept, backlog_count]
    · obtain ⟨order, untaken, backlog⟩ := ih link' (w := t.world) (hq.calm (counted.trans calm))
      refine ⟨?_, ?_, ?_⟩
      · simp only [after_effects, handed_append, said, handed_cons, Effect.handed, if_pos, handed_nil,
          String.append_empty, String.append_assoc, order, List.map_cons, String.join_cons]
      · simp [said, Effect.taken, untaken]
      · rw [after_world, backlog, kept, backlog_count]

/-- A record given to a local sink: nothing of forwarder `k` moves. -/
theorem conveys_keep (s : Sink) (r : LogRecord) : Conveys k w "" (keep w s r) :=
  Conveys.still rfl rfl (by rw [keep, idle_world, World.keep_fwd])

end Trail

/-- A trail in which forwarder `k` hands on what waited in `w` and then what it
took, in order, save what still waits at its end; it keeps a backlog of no
capacity empty. -/
structure Conserves (k : Nat) (w : World) (t : Trail) : Prop where
  order : handed k t.effects ++ t.world.waiting k = w.waiting k ++ taken k t.effects
  tidy : (w.fwd k).Tidy → (t.world.fwd k).Tidy

namespace Conserves

variable {k : Nat} {w : World} {t : Trail}

theorem of_conveys (h : Conveys k w "" t) : Conserves k w t where
  order := by rw [h.order, h.untaken]
  tidy := h.tidy

theorem bind (h : Conserves k w t) {f : World → Trail} (h' : Conserves k t.world (f t.world)) :
    Conserves k w (t.bind f) where
  order := by
    simp only [Trail.bind_effects, Trail.bind_world, handed_append, taken_append, String.append_assoc]
    rw [h'.order, ← String.append_assoc, h.order, String.append_assoc]
  tidy ht := h'.tidy (h.tidy ht)

theorem within (h : Conserves k w t) (b : Bool) : Conserves k w (t.within b) := ⟨h.order, h.tidy⟩

/-- The same hand-over seen from a world where the same text waits. -/
theorem rebase {u : World} (h : Conserves k u t) (hw : u.waiting k = w.waiting k)
    (ht : (w.fwd k).Tidy → (u.fwd k).Tidy) : Conserves k w t where
  order := by rw [h.order, hw]
  tidy h' := h.tidy (ht h')

/-- The sink of forwarder `k` takes a record, and the forwarder hands it on or
keeps it in order. -/
theorem took {r : LogRecord} {f : World → Trail} (h : Conveys k w r.text (f w)) :
    Conserves k w ((Trail.emit w (.took k r)).bind f) where
  order := by
    simp only [Trail.bind_effects, Trail.emit_effects, Trail.bind_world, Trail.emit_world, handed_append,
      taken_append, handed_cons, taken_cons, handed_nil, taken_nil, Effect.handed, Effect.taken, if_pos,
      String.append_empty, String.empty_append, h.untaken]
    exact h.order
  tidy := h.tidy

end Conserves

namespace Trail

variable {w : World} {k : Nat} {r : LogRecord}

/-- A record that fits a line, met by an effect the run allows. -/
theorem fits_took (hf : Fits k ((emit w (.took k r)).bind f).effects) :
    r.text.utf8ByteSize ≤ maxLineBytes ∧ Fits k (f w).effects := by
  simp only [bind_effects, emit_effects, emit_world, List.singleton_append, Fits, List.mem_cons,
    forall_eq_or_imp, Effect.fits, bne_self_eq_false, Bool.false_or, decide_eq_true_eq] at hf
  exact hf

/-- A record handed to the slot inside an operation, when the slot holds a
local sink or a sink of forwarder `k`. -/
theorem conserves_dispatchInside (hslot : w.SlotOnly k)
    (hm : (w.fwd k).mirror = false) (ht : (w.fwd k).Tidy) (hf : Fits k (dispatchInside w r).effects) :
    Conserves k w (dispatchInside w r) := by
  unfold dispatchInside at hf ⊢
  split
  · rename_i j hj
    obtain rfl := hslot j (Or.inl hj)
    rw [hj] at hf
    obtain ⟨hr, hf⟩ := fits_took hf
    exact Conserves.took (conveys_defer hm ht hr hf)
  · rename_i j hj
    obtain rfl := hslot j (Or.inr hj)
    rw [hj] at hf
    obtain ⟨hr, hf⟩ := fits_took hf
    exact Conserves.took (conveys_defer hm ht hr hf)
  · exact Conserves.of_conveys (conveys_keep _ r)

theorem conserves_dispatch (hs : w.Sound) (hslot : w.SlotOnly k) (hq : w.Quiet) (hm : (w.fwd k).mirror = false)
    (ht : (w.fwd k).Tidy) (env : Surroundings) (hf : Fits k (dispatch env w r).effects) :
    Conserves k w (dispatch env w r) := by
  unfold dispatch at hf ⊢
  split
  · rename_i j hj
    obtain rfl := hslot j (Or.inl hj)
    rw [hj] at hf
    obtain ⟨hr, hf⟩ := fits_took hf
    exact Conserves.took (conveys_defer hm ht hr hf)
  · rename_i j hj
    obtain rfl := hslot j (Or.inr hj)
    rw [hj] at hf
    obtain ⟨hr, hf⟩ := fits_took hf
    exact Conserves.took (conveys_forward hs (hs.active_of_forwarding hj) hq hm ht hr env hf)
  · exact Conserves.of_conveys (conveys_keep _ r)

theorem conserves_announce (hslot : w.SlotOnly k) (hm : (w.fwd k).mirror = false) (ht : (w.fwd k).Tidy)
    (env : Surroundings) (e : Diagnostic.Event) (hf : Fits k (announce env w e).effects) :
    Conserves k w (announce env w e) := by
  unfold announce at hf ⊢
  split
  · split
    · rename_i lg hl h
      simp only [hl, if_pos h] at hf
      exact conserves_dispatchInside hslot hm ht hf
    · exact Conserves.of_conveys (Conveys.idle k w)
  · exact Conserves.of_conveys (Conveys.idle k w)

/-- A note given to a local sink: nothing of forwarder `k` moves. -/
theorem conveys_announce_local (hl : w.slot.sink.isLocal = true) (env : Surroundings) (e : Diagnostic.Event) :
    Conveys k w "" (announce env w e) := by
  unfold announce
  split
  · split
    · unfold dispatchInside
      split
      · rename_i j hj
        simp [hj, Sink.isLocal] at hl
      · rename_i j hj
        simp [hj, Sink.isLocal] at hl
      · exact conveys_keep _ _
    · exact Conveys.idle k w
  · exact Conveys.idle k w

/-- Once forwarder `k` gave the slot back, its note goes to a local sink. -/
theorem conveys_release_announce {P : Sink} (hP : P.isLocal = true)
    (hslot : w.slot.sink.isLocal = true ∨ w.slot.provenance = .forwarder k) (env : Surroundings)
    (e : Diagnostic.Event) : Conveys k w "" (announce env (((w.flush P).restoreIf k P).1.settle k) e) := by
  have local_ : (((w.flush P).restoreIf k P).1.settle k).slot.sink.isLocal = true := by
    simp only [World.slot_settle, World.restoreIf_slot, World.flush_slot, Installed.restoreIf]
    split
    · exact hP
    · rename_i hk
      exact hslot.resolve_right hk
  have same : ((((w.flush P).restoreIf k P).1.settle k).fwd k).backlog = (w.fwd k).backlog := by simp
  exact (conveys_announce_local local_ env e).rebase (by rw [World.waiting_eq same]) fun h b hb => h b (same ▸ hb)

/-- Stopping hands on everything that waits, in order: what is sent, then,
written where the forwarder falls back, what is left. -/
theorem conserves_stop (hq : w.Quiet) (hP : (w.previousSink k).isLocal = true)
    (hslot : w.slot.sink.isLocal = true ∨ w.slot.provenance = .forwarder k) (env : Surroundings) :
    Conserves k w (stop env w k) := by
  by_cases unused : (w.fwd k).state = .uninstalled
  · simp only [stop, World.fwd_inside, unused, ↓reduceIte]
    refine (Conserves.of_conveys ?_).within _
    exact Conveys.still rfl rfl rfl
  simp only [stop, World.fwd_inside, unused, ↓reduceIte, World.takeLink, World.takeBacklog, World.link_updateFwd,
    World.backlog_updateFwd, World.previousSink_updateFwd, World.previousSink_inside, implies_true]
  refine (Conserves.of_conveys ?_).within _
  have emptied := backlog_takeBacklog ((({ w with inside := true } : World).updateFwd k
    fun f => { f with state := .restoring }).updateFwd k fun f => { f with link := none }) k
  simp only [World.takeBacklog] at emptied
  have quiet : World.Quiet (((({ w with inside := true } : World).updateFwd k
      fun f => { f with state := .restoring }).updateFwd k fun f => { f with link := none }).updateFwd k
      fun f => { f with backlog := none }) := hq
  have kept : World.slot (((({ w with inside := true } : World).updateFwd k
      fun f => { f with state := .restoring }).updateFwd k fun f => { f with link := none }).updateFwd k
      fun f => { f with backlog := none }) = w.slot := rfl
  generalize (((({ w with inside := true } : World).updateFwd k fun f => { f with state := .restoring }).updateFwd k
    fun f => { f with link := none }).updateFwd k fun f => { f with backlog := none }) = u at emptied quiet kept
  have tidy : (u.fwd k).Tidy := fun b hb => by rw [emptied] at hb; cases hb
  have tail : ∀ (x : World) (rest : List Entry) (g : World → Trail), (x.fwd k).backlog = none →
      x.slot = w.slot → (∀ v, Conveys k v "" (g v) ∧ World.Calm v (g v).world) → ∀ e : World → Diagnostic.Event,
      Conveys k x (String.join (rest.map Entry.text)) ((replay x k (w.previousSink k) rest).bind fun v =>
        (g v).bind fun v =>
          announce env (((v.flush (w.previousSink k)).restoreIf k (w.previousSink k)).1.settle k) (e v)) := by
    intro x rest g hx hs hg e
    have written := conveys_replay (World.waiting_none hx) (w.previousSink k) rest
    have calm := calm_replay x k (w.previousSink k) rest
    obtain ⟨noted, calm'⟩ := hg (replay x k (w.previousSink k) rest).world
    rw [← String.append_empty (s := String.join (rest.map Entry.text))]
    refine written.bind ?_
    rw [← String.empty_append (s := "")]
    refine noted.bind ?_
    exact conveys_release_announce hP (by rw [calm'.slot, calm.slot, hs]; exact hslot) env _
  have quietly : ∀ v, Conveys k v "" (idle v) ∧ World.Calm v (idle v).world :=
    fun v => ⟨Conveys.idle k v, World.Calm.refl v⟩
  have closed : ∀ (x : World) (c : Channel) {s : String} {t : Trail}, Conveys k (x.closeChannel c) s t →
      Conveys k x s t := fun x c _ _ h => by
    have same := World.closeChannel_fwd x c k
    exact h.rebase (by rw [World.waiting_eq (congrArg Forwarder.backlog same)]) fun h' b hb => h' b (same ▸ hb)
  have untouched : u.waiting k = "" := World.waiting_none emptied
  cases hb : (w.fwd k).backlog with
  | none =>
    have hw : w.waiting k = "" := World.waiting_none hb
    cases hl : (w.fwd k).link with
    | none =>
      exact Conveys.lead (by simp [hw]) rfl untouched (fun _ => tidy) (tail u [] _ emptied kept quietly _)
    | some l =>
      refine Conveys.lead ?_ rfl untouched (fun _ => tidy) (closed u l.channel (tail _ [] _ ?_ ?_ quietly _))
      · simp [hw]
      · rw [World.closeChannel_fwd, emptied]
      · rw [World.closeChannel_slot, kept]
  | some b =>
    have hw : w.waiting k = String.join (b.entries.map Entry.text) := by simp [World.waiting, hb, Backlog.text]
    cases hl : (w.fwd k).link with
    | none =>
      exact Conveys.lead (by simp [hw]) rfl untouched (fun _ => tidy) (tail u b.entries _ emptied kept quietly _)
    | some l =>
      obtain ⟨order, untaken, backlog⟩ := hands_drainTaken (k := k) env (w.previousSink k) l b.entries quiet
      have calm := calm_drainTaken u k env (w.previousSink k) l b.entries
      refine Conveys.lead (order.trans hw.symm) untaken (World.waiting_none (backlog.trans emptied))
        (fun _ b' hb' => tidy b' (backlog ▸ hb')) (closed _ l.channel ?_)
      refine tail (World.closeChannel _ l.channel) _ _ (by rw [World.closeChannel_fwd, backlog, emptied])
        (by rw [World.closeChannel_slot, calm.slot, kept]) (fun v => ?_) _
      split
      · exact ⟨conveys_notice _ _, calm_notice v k _ _⟩
      · exact quietly v

/-- Buffering early sets up an empty backlog: only its own note can bring a
record to the forwarder. -/
theorem conserves_startBuffering (hs : w.Sound) (hk : k < w.fwds.length) (hm : (w.fwd k).mirror = false)
    (env : Surroundings) (capacity : Nat) (hf : Fits k (startBuffering env w k capacity).1.effects) :
    Conserves k w (startBuffering env w k capacity).1 := by
  by_cases unused : (w.fwd k).state = .uninstalled
  · have empty := ((Forwarder.shaped_spec (hs.shaped k)).2.1 unused).1
    simp only [startBuffering, World.fwd_inside, unused, ne_eq, not_true_eq_false, ↓reduceIte] at hf ⊢
    generalize hu : ((({ w with inside := true } : World).updateFwd k
      fun f => { f with backlog := some (Backlog.new capacity) }).install k (.buffering k)).updateFwd k
        (fun f => { f with state := .earlyBuffering }) = u at hf ⊢
    have kept : ∀ {α : Type} (g : Forwarder → α), (∀ f p, g { f with previous := p } = g f) →
        (∀ f, g { f with state := .earlyBuffering } = g f) →
        g (u.fwd k) = g ({ w.fwd k with backlog := some (Backlog.new capacity) }) := by
      intro α g hp hst
      rw [← hu, World.fwd_updateFwd_view _ k k _ g hst, World.install_fwd_view _ k k _ g hp,
        World.fwd_updateFwd_self ({ w with inside := true } : World) k _ hk]
      rfl
    have fresh : (u.fwd k).backlog = some (Backlog.new capacity) := kept Forwarder.backlog (fun _ _ => rfl) fun _ => rfl
    have mirror : (u.fwd k).mirror = false := (kept Forwarder.mirror (fun _ _ => rfl) fun _ => rfl).trans hm
    have tidy : (u.fwd k).Tidy := fun b hb => by
      rw [fresh, Option.some.injEq] at hb
      exact hb ▸ Backlog.tidy_new capacity
    have slotOnly : u.SlotOnly k := by
      intro j hj
      rw [← hu, World.slot_updateFwd, World.install_slot] at hj
      rcases hj with h | h
      · exact (Sink.buffering.inj h).symm
      · cases h
    have waiting : u.waiting k = w.waiting k := by
      rw [World.waiting_none empty, World.waiting, fresh]
      rfl
    exact ((conserves_announce slotOnly mirror tidy env _ hf).within _).rebase waiting fun _ => tidy
  · simp only [startBuffering, World.fwd_inside, unused, ne_eq, not_false_eq_true, ↓reduceIte]
    refine (Conserves.of_conveys ?_).within _
    exact Conveys.still rfl rfl rfl

/-- The cells activation sets for forwarder `k`: the same text waits, in a
tidy backlog, the mirror flag is the one asked for, and its sink holds the slot. -/
theorem linkUp_spec (hk : k < w.fwds.length) (ht : (w.fwd k).Tidy) (l : Link) (mirror : Bool) (capacity : Nat) :
    let x := w.updateFwd k fun f => { f with link := some l, mirror := mirror }
    let u := ((if (x.fwd k).backlog.isNone then x.updateFwd k fun f => { f with backlog := some (Backlog.new capacity) }
      else x).install k (.forwarding k)).updateFwd k fun f => { f with state := .active }
    u.waiting k = w.waiting k ∧ (u.fwd k).Tidy ∧ (u.fwd k).mirror = mirror ∧ u.SlotOnly k := by
  intro x u
  have xk : x.fwd k = { w.fwd k with link := some l, mirror := mirror } := World.fwd_updateFwd_self _ k _ hk
  have hx : k < x.fwds.length := by simpa [x] using hk
  have xb : (x.fwd k).backlog = (w.fwd k).backlog :=
    World.backlog_updateFwd _ _ _ (fun f => { f with link := some l, mirror := mirror }) fun _ => rfl
  have installed : ∀ {α : Type} (g : Forwarder → α), (∀ f p, g { f with previous := p } = g f) →
      (∀ f, g { f with state := .active } = g f) →
      g (u.fwd k) = g ((if (x.fwd k).backlog.isNone then
        x.updateFwd k fun f => { f with backlog := some (Backlog.new capacity) } else x).fwd k) :=
    fun g hp hst => (World.fwd_updateFwd_view _ k k _ g hst).trans (World.install_fwd_view _ k k _ g hp)
  have mirrored : (u.fwd k).mirror = mirror := by
    rw [installed Forwarder.mirror (fun _ _ => rfl) fun _ => rfl]
    split
    · rw [World.fwd_updateFwd_view _ k k (fun f => { f with backlog := some (Backlog.new capacity) })
        Forwarder.mirror (fun _ => rfl), xk]
    · rw [xk]
  have slotOnly : u.SlotOnly k := by
    intro j hj
    simp only [u, World.slot_updateFwd, World.install_slot] at hj
    rcases hj with h | h
    · cases h
    · exact (Sink.forwarding.inj h).symm
  cases hb : (w.fwd k).backlog with
  | none =>
    have fresh : (u.fwd k).backlog = some (Backlog.new capacity) := by
      rw [installed Forwarder.backlog (fun _ _ => rfl) (fun _ => rfl), xb, hb]
      simp only [Option.isNone_none, ↓reduceIte]
      rw [World.fwd_updateFwd_self _ k _ hx]
    refine ⟨?_, fun b' h => ?_, mirrored, slotOnly⟩
    · rw [World.waiting_none hb, World.waiting, fresh]
      rfl
    · rw [fresh, Option.some.injEq] at h
      exact h ▸ Backlog.tidy_new capacity
  | some b =>
    have same : (u.fwd k).backlog = some b := by
      rw [installed Forwarder.backlog (fun _ _ => rfl) (fun _ => rfl), xb, hb]
      simp only [Option.isNone_some, Bool.false_eq_true, ↓reduceIte]
      rw [xb, hb]
    refine ⟨World.waiting_eq (same.trans hb.symm), fun b' h => ht b' (hb ▸ same ▸ h), mirrored, slotOnly⟩

/-- Activating without mirroring keeps what waits, and only its own note can
bring a record to the forwarder. -/
theorem conserves_activate (hk : k < w.fwds.length) (ht : (w.fwd k).Tidy) (env : Surroundings)
    (channel : Channel) (app : Option String) (raw : Bool)
    (hf : Fits k (activate env w k channel app raw false).1.effects) :
    Conserves k w (activate env w k channel app raw false).1 := by
  rcases hst : (w.fwd k).state with _ | _ | _ | _ <;>
    simp only [activate, World.fwd_inside, hst] at hf ⊢
  case active | restoring =>
    refine (Conserves.of_conveys ?_).within _
    exact Conveys.still rfl rfl rfl
  all_goals
    have spec := fun l => linkUp_spec (w := { w with inside := true }) hk ht l false (w.fwd k).config.bufferCapacity
    exact ((conserves_announce (spec _).2.2.2 (spec _).2.2.1 (spec _).2.1 env _ hf).within _).rebase (spec _).1
      fun _ => (spec _).2.1

end Trail

namespace World

/-- The change from `w` to `v` stays with forwarder `k`: no forwarder is added,
every other one keeps its state, `k` stays unmirrored, and no wire comes to log
while it sends. -/
structure Confined (k : Nat) (w v : World) : Prop where
  length : v.fwds.length = w.fwds.length
  others : ∀ j, j ≠ k → (v.fwd j).state = (w.fwd j).state
  unmirrored : (w.fwd k).Unmirrored → (v.fwd k).Unmirrored
  quiet : w.Quiet → v.Quiet

namespace Confined

variable {k : Nat} {u v w : World}

theorem refl (k : Nat) (w : World) : Confined k w w := ⟨rfl, fun _ _ => rfl, id, id⟩

theorem trans (h : Confined k u v) (h' : Confined k v w) : Confined k u w where
  length := h'.length.trans h.length
  others j hj := (h'.others j hj).trans (h.others j hj)
  unmirrored hu := h'.unmirrored (h.unmirrored hu)
  quiet hq := h'.quiet (h.quiet hq)

theorem of_calm (h : Calm w v) (k : Nat) : Confined k w v where
  length := h.length
  others j _ := (h.steady j).2.1
  unmirrored hu := ⟨(h.steady k).2.2.2.2.1.trans hu.1, by rw [(h.steady k).1]; exact hu.2⟩
  quiet hq := hq.calm h

theorem inside (k : Nat) (w : World) (b : Bool) : Confined k w { w with inside := b } :=
  ⟨rfl, fun _ _ => rfl, id, id⟩

/-- Changing forwarder `k` alone, keeping it unmirrored. -/
theorem updateFwd (w : World) (k : Nat) (f : Forwarder → Forwarder) (hf : ∀ x, x.Unmirrored → (f x).Unmirrored) :
    Confined k w (w.updateFwd k f) where
  length := length_updateFwd w k f
  others j hj := by rw [fwd_updateFwd, if_neg fun h => hj h.1.symm]
  unmirrored hu := by
    rw [fwd_updateFwd]
    split
    · exact hf _ hu
    · exact hu
  quiet hq := hq.updateFwd k f

theorem closeChannel (w : World) (k : Nat) (c : Channel) : Confined k w (w.closeChannel c) where
  length := by simp
  others j _ := by rw [closeChannel_fwd]
  unmirrored hu := by rw [closeChannel_fwd]; exact hu
  quiet hq := hq.closeChannel c

/-- Giving the slot back and settling forwarder `k`, which mirrors again only
as its settings say. -/
theorem release (w : World) (k : Nat) (P : Sink) : Confined k w (((w.flush P).restoreIf k P).1.settle k) where
  length := by simp [settle]
  others j hj := by rw [fwd_settle_of_ne _ _ hj, fwd_restoreIf, fwd_flush]
  unmirrored hu := by
    rw [fwd_settle]
    split
    · exact ⟨by simpa using hu.2, by simpa using hu.2⟩
    · simpa using hu
  quiet hq := fun i x hx => hq i x (by simpa using hx)

theorem install (w : World) (k : Nat) (s : Sink) : Confined k w (w.install k s) where
  length := install_length w k s
  others j hj := by rw [install_fwd_of_ne w k j s hj]
  unmirrored hu := ⟨(install_fwd_view w k k s Forwarder.mirror fun _ _ => rfl).trans hu.1,
    (install_fwd_view w k k s (fun f => f.config.mirror) fun _ _ => rfl).trans hu.2⟩
  quiet hq := fun i x hx => hq i x (by simpa using hx)

end Confined

end World

namespace Trail

variable {w : World} {k : Nat} {r : LogRecord}

theorem confined_disable (m : World) (k : Nat) (err : Net.LinkError) (P : Sink) (r : LogRecord) :
    World.Confined k m (disable m k err P r).world := by
  have taken : World.Confined k m (((m.updateFwd k fun f => { f with state := .restoring }).count k
      fun s => { s with failures := s.failures + 1 }).updateFwd k fun f => { f with backlog := none }) :=
    ((World.Confined.updateFwd _ k _ (by exact fun _ h => h)).trans (.of_calm (World.calm_count _ k _) k)).trans
      (World.Confined.updateFwd _ k _ (by exact fun _ h => h))
  have rest : ∀ t : Trail, World.Confined k m t.world →
      World.Confined k m ((notice t.world k P err).bind fun w => (fallBack w k P r).bind fun w =>
        idle (((w.flush P).restoreIf k P).1.settle k)).world := by
    intro t ht
    simp only [bind_world, idle_world]
    exact ((ht.trans (.of_calm (calm_notice _ k P err) k)).trans (.of_calm (calm_fallBack _ k P r) k)).trans
      (World.Confined.release _ k P)
  simp only [disable, World.takeBacklog]
  split
  · exact rest _ (taken.trans (.of_calm (calm_replay _ k P _) k))
  · exact rest (idle _) taken

theorem confined_teardown (m : World) (k : Nat) (err : Net.LinkError) (unsent : Option Entry) (r : LogRecord) :
    World.Confined k m (teardown m k err unsent r).world := by
  have last : ∀ v : World, World.Confined k m v → World.Confined k m
      (if (v.fwd k).state ≠ .active then fallBack v k (m.previousSink k) r
        else disable v k err (m.previousSink k) r).world := by
    intro v hv
    split
    · exact hv.trans (.of_calm (calm_fallBack _ k _ r) k)
    · exact hv.trans (confined_disable _ k err _ r)
  unfold teardown
  cases unsent with
  | none =>
    rw [bind_world, idle_world]
    exact last m (World.Confined.refl k m)
  | some e =>
    rw [bind_world]
    exact last _ (.of_calm (calm_fallBack m k _ _) k)

theorem confined_giveUp (v : World) (k : Nat) (link : Link) (err : Net.LinkError) (unsent : Option Entry)
    (r : LogRecord) : World.Confined k v (giveUp v k link err unsent r).world :=
  ((World.Confined.updateFwd v k _ (by exact fun _ h => h)).trans (World.Confined.closeChannel _ k _)).trans
    (confined_teardown _ k err unsent r)

theorem confined_sendLast (env : Surroundings) (w : World) (k : Nat) (r : LogRecord) (link : Link) :
    World.Confined k w (sendLast env w k r link).world := by
  have calm := calm_transmit w k env link r.task (Text.cutBytes r.text maxLineBytes)
  unfold sendLast
  generalize transmit env w k link r.task (Text.cutBytes r.text maxLineBytes) = out at calm
  rcases out with ⟨t, link', _ | ⟨⟩⟩ <;> dsimp only at calm ⊢ <;> rw [bind_world]
  · exact (World.Confined.of_calm calm k).trans (confined_giveUp _ k link' _ none r)
  · exact ((World.Confined.of_calm calm k).trans (World.Confined.updateFwd _ k _ (by exact fun _ h => h))).trans
      (.of_calm (calm_echo _ k r) k)

theorem confined_drainThenSend (env : Surroundings) (r : LogRecord) (pending : Nat) (w : World) (link : Link) :
    World.Confined k w (drainThenSend env w k r link pending).world := by
  fun_induction drainThenSend env w k r link pending with
  | case1 w link | case4 w link _ _ => exact confined_sendLast env w k r link
  | case2 w link pending b entry hd v u t link' sent ih =>
    have calm := calm_transmit u k env link entry.task entry.text
    rw [sent] at calm
    have c := World.Confined.of_calm ((World.calm_drainOne_of_map w k hd).trans calm) k
    rw [bind_world]
    exact (c.trans (World.Confined.updateFwd _ k _ (by exact fun _ h => h))).trans (ih _)
  | case3 w link pending b entry hd v u t link' err failed =>
    have calm := calm_transmit u k env link entry.task entry.text
    rw [failed] at calm
    have c := World.Confined.of_calm ((World.calm_drainOne_of_map w k hd).trans calm) k
    rw [bind_world]
    exact c.trans (confined_giveUp _ k link' _ _ r)

theorem confined_forward (env : Surroundings) (w : World) (k : Nat) (r : LogRecord) :
    World.Confined k w (forward env w k r).world := by
  unfold forward
  split
  · exact .of_calm (calm_defer w k r) k
  · rw [within_world]
    refine World.Confined.trans ((World.Confined.inside k w true).trans ?_) (World.Confined.inside k _ w.inside)
    split
    · exact .of_calm (calm_fallBack _ k _ r) k
    · exact confined_drainThenSend env r _ _ _

theorem confined_dispatch (env : Surroundings) (w : World) (hslot : w.SlotOnly k) (r : LogRecord) :
    World.Confined k w (dispatch env w r).world := by
  unfold dispatch
  split
  · exact .of_calm (calm_defer w _ r) k
  · rename_i j hj
    obtain rfl := hslot j (Or.inr hj)
    exact confined_forward env w j r
  · exact .of_calm (World.calm_keep w _ r) k

theorem confined_startBuffering (env : Surroundings) (w : World) (k capacity : Nat) :
    World.Confined k w (startBuffering env w k capacity).1.world := by
  by_cases unused : (w.fwd k).state = .uninstalled
  · simp only [startBuffering, World.fwd_inside, unused, ne_eq, not_true_eq_false, ↓reduceIte, within_world]
    refine World.Confined.trans ?_ (World.Confined.inside k _ w.inside)
    refine World.Confined.trans ?_ (.of_calm (calm_announce _ env _) k)
    exact (((World.Confined.inside k w true).trans (World.Confined.updateFwd _ k _ (by exact fun _ h => h))).trans
      (World.Confined.install _ k _)).trans (World.Confined.updateFwd _ k _ (by exact fun _ h => h))
  · simp only [startBuffering, World.fwd_inside, unused, ne_eq, not_false_eq_true, ↓reduceIte, within_world,
      idle_world]
    exact (World.Confined.inside k w true).trans (World.Confined.inside k _ w.inside)

theorem confined_activate (env : Surroundings) (w : World) (k : Nat) (channel : Channel) (app : Option String)
    (raw : Bool) : World.Confined k w (activate env w k channel app raw false).1.world := by
  have linked : ∀ (l : Link) (capacity : Nat),
      let x := ({ w with inside := true } : World).updateFwd k fun f => { f with link := some l, mirror := false }
      World.Confined k w (if (x.fwd k).backlog.isNone then
        x.updateFwd k (fun f => { f with backlog := some (Backlog.new capacity) }) else x) := by
    intro l capacity x
    have hx : World.Confined k w x :=
      (World.Confined.inside k w true).trans (World.Confined.updateFwd _ k _ fun _ h => ⟨rfl, h.2⟩)
    split
    · exact hx.trans (World.Confined.updateFwd _ k _ (by exact fun _ h => h))
    · exact hx
  rcases hst : (w.fwd k).state with _ | _ | _ | _ <;>
    simp only [activate, World.fwd_inside, hst, within_world, idle_world]
  case active | restoring => exact (World.Confined.inside k w true).trans (World.Confined.inside k _ w.inside)
  all_goals
    refine World.Confined.trans ?_ (World.Confined.inside k _ w.inside)
    refine World.Confined.trans ?_ (.of_calm (calm_announce _ env _) k)
    refine World.Confined.trans ?_ (World.Confined.updateFwd _ k _ (by exact fun _ h => h))
    exact (linked _ _).trans (World.Confined.install _ k _)

theorem confined_stop (env : Surroundings) (w : World) (k : Nat) : World.Confined k w (stop env w k).world := by
  by_cases unused : (w.fwd k).state = .uninstalled
  · simp only [stop, World.fwd_inside, unused, ↓reduceIte, within_world, idle_world]
    exact (World.Confined.inside k w true).trans (World.Confined.inside k _ w.inside)
  simp only [stop, World.fwd_inside, unused, ↓reduceIte, World.takeLink, World.takeBacklog, World.link_updateFwd,
    World.backlog_updateFwd, World.previousSink_updateFwd, World.previousSink_inside, implies_true, bind_world,
    within_world]
  refine World.Confined.trans ?_ (World.Confined.inside k _ w.inside)
  have taken : World.Confined k w (((({ w with inside := true } : World).updateFwd k
      fun f => { f with state := .restoring }).updateFwd k fun f => { f with link := none }).updateFwd k
      fun f => { f with backlog := none }) :=
    (((World.Confined.inside k w true).trans (World.Confined.updateFwd _ k _ (by exact fun _ h => h))).trans
      (World.Confined.updateFwd _ k _ (by exact fun _ h => h))).trans
      (World.Confined.updateFwd _ k _ (by exact fun _ h => h))
  generalize (((({ w with inside := true } : World).updateFwd k fun f => { f with state := .restoring }).updateFwd k
    fun f => { f with link := none }).updateFwd k fun f => { f with backlog := none }) = u at taken
  have finish : ∀ x y, World.Confined k w x → World.Calm x y → ∀ e, World.Confined k w
      (announce env (((y.flush (w.previousSink k)).restoreIf k (w.previousSink k)).1.settle k) e).world :=
    fun x y hx c e => ((hx.trans (.of_calm c k)).trans (World.Confined.release _ k _)).trans
      (.of_calm (calm_announce _ env e) k)
  cases hb : (w.fwd k).backlog with
  | none =>
    cases hl : (w.fwd k).link with
    | none =>
      dsimp only [idle_world]
      exact finish u _ taken (calm_replay u k _ []) _
    | some l =>
      dsimp only [idle_world]
      exact finish _ _ (taken.trans (World.Confined.closeChannel _ k _)) (calm_replay _ k _ []) _
  | some b =>
    cases hl : (w.fwd k).link with
    | none =>
      dsimp only [idle_world]
      exact finish u _ taken (calm_replay u k _ b.entries) _
    | some l =>
      dsimp only [idle_world]
      have c1 := calm_drainTaken u k env (w.previousSink k) l b.entries
      generalize drainTaken env u k (w.previousSink k) l b.entries = out at c1
      rcases out with ⟨t, rest, _ | e⟩ <;> dsimp only [idle_world] at c1 ⊢
      · exact finish _ _ ((taken.trans (.of_calm c1 k)).trans (World.Confined.closeChannel _ k _))
          (calm_replay _ k _ rest) _
      · exact finish _ _ ((taken.trans (.of_calm c1 k)).trans (World.Confined.closeChannel _ k _))
          ((calm_replay _ k _ rest).trans (calm_notice _ k _ e)) _

end Trail

end SyslogRelay.Relay
