import SyslogRelay.Proofs.Conservation

namespace SyslogRelay.Relay

/-- The operations of a run of forwarder `k` alone: a wire it activates over was
never closed and logs nothing while it sends, and nothing is mirrored. -/
def Op.solo (k : Nat) : Op → Bool
  | .log _ => true
  | .install s => s.isLocal
  | .earlyBuffering j _ | .stop j | .shutdown j => j == k
  | .activate j x _ _ mirror => j == k && x.closes == 0 && x.onSend.isEmpty && !mirror
  | .addForwarder _ | .start .. => false

namespace World

variable {w : World} {k : Nat}

/-- A forwarder that owns the slot is installed. -/
theorem Sound.installed_of_slot (hs : w.Sound) {j : Nat}
    (hj : w.slot.sink = .buffering j ∨ w.slot.sink = .forwarding j) : (w.fwd j).state ≠ .uninstalled := by
  rcases hs.plain.slot with ⟨hl, -⟩ | ⟨i, hi, hp⟩
  · rcases hj with hj | hj <;> simp [hj, Sink.isLocal] at hl
  · have same : i = j := by
      rcases hi with hi | hi <;> rcases hj with hj | hj <;> simp_all
    subst same
    rcases hs.owner i hp with ⟨h, -⟩ | ⟨h, -⟩ <;> simp [h]

theorem Quiet.addWire (hq : w.Quiet) {x : Wire} (hx : x.onSend = []) : (w.addWire x).1.Quiet := by
  intro i y hy
  change (w.wires ++ [x])[i]? = some y at hy
  rw [List.getElem?_append] at hy
  split at hy
  · exact hq i y hy
  · rw [List.getElem?_singleton] at hy
    split at hy
    · cases hy
      exact hx
    · cases hy

/-- A world between operations where forwarder `k` runs alone: every other
forwarder is uninstalled, `k` does not mirror, no wire logs while it sends, and
a backlog of `k` with no room holds nothing. -/
structure Alone (k : Nat) (w : World) : Prop where
  coherent : w.Coherent
  present : k < w.fwds.length
  others : ∀ j, j ≠ k → (w.fwd j).state = .uninstalled
  unmirrored : (w.fwd k).Unmirrored
  quiet : w.Quiet
  tidy : (w.fwd k).Tidy

namespace Alone

theorem slotOnly (h : w.Alone k) : w.SlotOnly k := by
  intro j hj
  exact Decidable.byContradiction fun hjk => h.coherent.sound.installed_of_slot hj (h.others j hjk)

/-- The slot holds a local sink or one of forwarder `k`'s own. -/
theorem slot_local_or_own (h : w.Alone k) :
    w.slot.sink.isLocal = true ∨ w.slot.provenance = .forwarder k := by
  rcases h.coherent.sound.plain.slot with ⟨hl, -⟩ | ⟨j, hj, hp⟩
  · exact Or.inl hl
  · exact Or.inr (h.slotOnly j hj ▸ hp)

theorem allowed (h : w.Alone k) {op : Op} (ho : op.solo k = true) : op.Allowed w := by
  cases op with
  | log r => trivial
  | install s => exact ho
  | earlyBuffering j capacity | stop j | shutdown j =>
    have hj : j = k := by simpa [Op.solo] using ho
    exact hj ▸ h.present
  | activate j x app raw mirror =>
    obtain ⟨⟨⟨hj, closes⟩, -⟩, -⟩ := by simpa [Op.solo] using ho
    exact ⟨hj ▸ h.present, closes⟩
  | addForwarder config | start j host port app raw mirror => simp [Op.solo] at ho

end Alone

end World

namespace Trail

variable {w : World} {k : Nat}

/-- Each operation of a run of `k` alone keeps the hand-over of `k`. -/
theorem conserves_apply (h : w.Alone k) {op : Op} (ho : op.solo k = true) (env : Surroundings)
    (hf : Fits k (apply env w op).effects) : Conserves k w (apply env w op) := by
  have hs := h.coherent.sound
  cases op with
  | log r => exact conserves_dispatch hs h.slotOnly h.quiet h.unmirrored.1 h.tidy env hf
  | install s => exact Conserves.of_conveys (Conveys.still rfl rfl rfl)
  | earlyBuffering j capacity =>
    have hj : j = k := by simpa [Op.solo] using ho
    subst j
    exact conserves_startBuffering hs h.present h.unmirrored.1 env capacity hf
  | activate j x app raw mirror =>
    obtain ⟨⟨⟨hj, -⟩, -⟩, hm⟩ := by simpa [Op.solo] using ho
    subst j mirror
    exact (conserves_activate (w := (w.addWire (.scripted x)).1) h.present h.tidy env _ app raw hf).rebase rfl id
  | stop j | shutdown j =>
    have hj : j = k := by simpa [Op.solo] using ho
    subst j
    exact conserves_stop h.quiet (hs.plain.previous k) h.slot_local_or_own env
  | addForwarder config | start j host port app raw mirror => simp [Op.solo] at ho

/-- Each operation of a run of `k` alone changes nothing of the other forwarders
and keeps `k` unmirrored and every wire quiet. -/
theorem confined_apply (h : w.Alone k) {op : Op} (ho : op.solo k = true) (env : Surroundings) :
    World.Confined k w (apply env w op).world := by
  cases op with
  | log r => exact confined_dispatch env w h.slotOnly r
  | install s => exact ⟨rfl, fun _ _ => rfl, id, id⟩
  | earlyBuffering j capacity =>
    have hj : j = k := by simpa [Op.solo] using ho
    subst j
    exact confined_startBuffering env w k capacity
  | activate j x app raw mirror =>
    obtain ⟨⟨⟨hj, -⟩, quiet⟩, hm⟩ := by simpa [Op.solo] using ho
    subst j mirror
    have added : World.Confined k w (w.addWire (.scripted x)).1 :=
      ⟨rfl, fun _ _ => rfl, id, fun hq => hq.addWire (by simpa [Wire.onSend] using quiet)⟩
    exact added.trans (confined_activate env _ k _ app raw)
  | stop j | shutdown j =>
    have hj : j = k := by simpa [Op.solo] using ho
    subst j
    exact confined_stop env w k
  | addForwarder config | start j host port app raw mirror => simp [Op.solo] at ho

end Trail

namespace World.Alone

variable {w : World} {k : Nat}

/-- One operation of a run of `k` alone leaves a world where `k` runs alone. -/
theorem apply (h : w.Alone k) {op : Op} (ho : op.solo k = true) (env : Surroundings)
    (hf : Fits k (Trail.apply env w op).effects) : (Trail.apply env w op).world.Alone k := by
  have confined := Trail.confined_apply h ho env
  refine ⟨?_, confined.length ▸ h.present, fun j hj => (confined.others j hj).trans (h.others j hj),
    confined.unmirrored h.unmirrored, confined.quiet h.quiet, (Trail.conserves_apply h ho env hf).tidy h.tidy⟩
  rw [apply_world h.coherent.sound.plain]
  exact h.coherent.apply (h.allowed ho)

/-- A whole run of `k` alone keeps the hand-over of `k`, and its trail ends in
the world the run leaves. -/
theorem run (h : w.Alone k) (env : Surroundings) (ops : List Op) (hops : ∀ op ∈ ops, op.solo k = true)
    (hf : Fits k (Trail.run env w ops).effects) :
    Conserves k w (Trail.run env w ops) ∧ (Trail.run env w ops).world = w.run env ops := by
  induction ops generalizing w with
  | nil => exact ⟨.of_conveys (Conveys.idle k w), rfl⟩
  | cons op ops ih =>
    have ho := hops op List.mem_cons_self
    simp only [Trail.run, Trail.bind_effects, fits_append] at hf
    obtain ⟨first, rest⟩ := hf
    obtain ⟨conserves, ends⟩ :=
      ih (h.apply ho env first) (fun o mem => hops o (List.mem_cons_of_mem op mem)) rest
    refine ⟨(Trail.conserves_apply h ho env first).bind conserves, ?_⟩
    rw [Trail.run, Trail.bind_world, ends, apply_world h.coherent.sound.plain]
    rfl

end World.Alone

namespace World

/-- A forwarder that does not mirror, added to the empty world, runs alone there. -/
theorem alone_new {config : Config} (hm : config.mirror = false) : (World.empty.addForwarder config).1.Alone 0 where
  coherent := ⟨coherent_empty.sound.addForwarder config, rfl⟩
  present := Nat.zero_lt_one
  others j hj := by
    rw [fwd_of_length_le (World.empty.addForwarder config).1 j (Nat.one_le_iff_ne_zero.mpr hj)]
    rfl
  unmirrored := ⟨hm, hm⟩
  quiet i x hx := by simp [wire, World.empty, addForwarder] at hx
  tidy b hb := by cases hb

end World

/-- No record is lost, duplicated or reordered by a new forwarder run alone.
At every point of such a run, what the forwarder handed on, in order, followed
by what waits in its backlog, is exactly what its sink took. -/
theorem handed_append_waiting_eq_taken {config : Config} (hm : config.mirror = false) (env : Surroundings)
    (ops : List Op) (hops : ∀ op ∈ ops, op.solo 0 = true)
    (hf : Fits 0 (Trail.run env (World.empty.addForwarder config).1 ops).effects) :
    handed 0 (Trail.run env (World.empty.addForwarder config).1 ops).effects ++
        ((World.empty.addForwarder config).1.run env ops).waiting 0 =
      taken 0 (Trail.run env (World.empty.addForwarder config).1 ops).effects := by
  obtain ⟨conserves, ends⟩ := (World.alone_new hm).run env ops hops hf
  have order := conserves.order
  rw [ends] at order
  have fresh : (World.empty.addForwarder config).1.waiting 0 = "" := rfl
  rw [order, fresh, String.empty_append]

/-- A forwarder buffers two lines early, is activated over a wire that refuses
every send, takes one more line, and is stopped. -/
theorem handed_in_order_through_failure :
    let ops := [Op.earlyBuffering 0 4, .log ⟨none, "a\n"⟩,
      .activate 0 (ScriptedWire.new (some .closed) 0 []) none false false, .log ⟨none, "b\n"⟩, .stop 0]
    let env : Surroundings := ⟨Net.Machine.isolated, none⟩
    let w := (World.empty.addForwarder (Config.defaults none)).1
    (∀ op ∈ ops, op.solo 0 = true) ∧ Fits 0 (Trail.run env w ops).effects ∧
      handed 0 (Trail.run env w ops).effects ++ (w.run env ops).waiting 0 = taken 0 (Trail.run env w ops).effects := by
  intro ops env w
  have hops : ∀ op ∈ ops, op.solo 0 = true := by decide
  have hf : Fits 0 (Trail.run env w ops).effects := by decide
  exact ⟨hops, hf, handed_append_waiting_eq_taken rfl env ops hops hf⟩

end SyslogRelay.Relay
