import SyslogRelay.Proofs.Counters

namespace SyslogRelay.Relay

/-- A call on a forwarder's boot signal: mark the boot, or attach a new marker. -/
inductive BootCall
  | mark
  | attach
  deriving DecidableEq, Repr

namespace Forwarder

/-- A call on the boot signal, with its answer. -/
def bootCall (f : Forwarder) : BootCall → Forwarder × Bool
  | .mark => f.markBoot
  | .attach => f.addMarker

/-- The forwarder after calls on its boot signal, in order. -/
def bootCalls (f : Forwarder) (calls : List BootCall) : Forwarder :=
  calls.foldl (fun f c => (f.bootCall c).1) f

@[simp] theorem bootCall_mark (f : Forwarder) : f.bootCall .mark = f.markBoot := rfl
@[simp] theorem bootCall_attach (f : Forwarder) : f.bootCall .attach = f.addMarker := rfl

@[simp] theorem bootCalls_nil (f : Forwarder) : f.bootCalls [] = f := rfl

@[simp] theorem bootCalls_cons (f : Forwarder) (c : BootCall) (cs : List BootCall) :
    f.bootCalls (c :: cs) = (f.bootCall c).1.bootCalls cs := rfl

theorem bootCalls_append (f : Forwarder) (cs ds : List BootCall) :
    f.bootCalls (cs ++ ds) = (f.bootCalls cs).bootCalls ds :=
  List.foldl_append

section Step

variable (f : Forwarder)

/-- A mark answers true exactly when the signal had not fired. -/
@[simp] theorem markBoot_answer : f.markBoot.2 = !f.boot.fired := by
  simp only [markBoot, BootSignal.mark]
  split <;> simp_all

/-- A fired signal ignores further marks. -/
theorem markBoot_of_fired (h : f.boot.fired = true) : f.markBoot.1 = f := by
  simp [markBoot, BootSignal.mark, h]

/-- The mark that fires the signal tells its marker, if it has one. -/
theorem markers_markBoot_of_unfired (h : f.boot.fired = false) :
    f.markBoot.1.markers = f.boot.marker.elim f.markers f.markers.tell := by
  simp only [markBoot, BootSignal.mark, h, Bool.false_eq_true, ↓reduceIte]
  cases f.boot.marker <;> rfl

@[simp] theorem marker_markBoot : f.markBoot.1.boot.marker = f.boot.marker := by
  simp only [markBoot, BootSignal.mark]
  split <;> rfl

@[simp] theorem calls_addMarker : f.addMarker.1.markers.calls = f.markers.calls ++ [0] := rfl

@[simp] theorem fired_addMarker : f.addMarker.1.boot.fired = f.boot.fired := by
  simp only [addMarker, BootSignal.setMarker]
  split <;> rfl

/-- Attaching sticks only when no marker was attached before; the new marker is
numbered after the existing ones. -/
theorem marker_addMarker : f.addMarker.1.boot.marker = f.boot.marker.or (some f.markers.calls.length) := by
  simp only [addMarker, BootSignal.setMarker, Markers.create]
  split <;> simp_all

end Step

/-- The signal has fired after some calls exactly when it had before them or
one of them was a mark. -/
theorem fired_bootCalls (f : Forwarder) (cs : List BootCall) :
    (f.bootCalls cs).boot.fired = true ↔ f.boot.fired = true ∨ BootCall.mark ∈ cs := by
  induction cs generalizing f with
  | nil => simp
  | cons c cs ih =>
    cases c with
    | mark => simp [ih]
    | attach => simp [ih]

/-- Once attached, a marker stays the signal's marker. -/
theorem marker_bootCalls {f : Forwarder} {m : Nat} (h : f.boot.marker = some m) (cs : List BootCall) :
    (f.bootCalls cs).boot.marker = some m := by
  induction cs generalizing f with
  | nil => exact h
  | cons c cs ih =>
    cases c with
    | mark =>
      rw [bootCalls_cons, bootCall_mark]
      exact ih (by rw [marker_markBoot, h])
    | attach =>
      rw [bootCalls_cons, bootCall_attach]
      exact ih (by rw [marker_addMarker, h, Option.some_or])

/-- After an attachment the signal has a marker. -/
theorem isSome_marker_bootCalls (f : Forwarder) {cs : List BootCall} (h : BootCall.attach ∈ cs) :
    ∃ m, (f.bootCalls cs).boot.marker = some m := by
  induction cs generalizing f with
  | nil => cases h
  | cons c cs ih =>
    rcases List.mem_cons.mp h with rfl | later
    · cases hm : (f.addMarker.1).boot.marker with
      | none => simp [marker_addMarker] at hm
      | some m => exact ⟨m, marker_bootCalls hm cs⟩
    · exact ih _ later

/-- What the calls keep of the markers: no marker was told twice, none before
the signal fired, and the signal's marker is one of them. -/
structure Told (f : Forwarder) : Prop where
  once : ∀ n ∈ f.markers.calls, n ≤ 1
  unfired : f.boot.fired = false → ∀ n ∈ f.markers.calls, n = 0
  attached : ∀ m, f.boot.marker = some m → m < f.markers.calls.length

theorem told_new (config : Config) : (Forwarder.new config).Told :=
  ⟨fun _ h => (nomatch h), fun _ _ h => (nomatch h), fun _ h => (nomatch h)⟩

/-- A fresh signal has fired after some calls exactly when one of them was a mark. -/
theorem fired_new_bootCalls (config : Config) (cs : List BootCall) :
    ((Forwarder.new config).bootCalls cs).boot.fired = true ↔ BootCall.mark ∈ cs := by
  simpa [Forwarder.new, BootSignal.new] using fired_bootCalls (Forwarder.new config) cs

/-- Telling one marker among untold ones tells it once. -/
theorem once_tell {calls : List Nat} (h : ∀ n ∈ calls, n = 0) (i : Nat) :
    ∀ n ∈ (Markers.tell ⟨calls⟩ i).calls, n ≤ 1 := by
  intro n hn
  obtain ⟨j, hj⟩ := List.mem_iff_getElem?.mp hn
  by_cases hij : i = j
  · subst hij
    simp only [Markers.tell, List.getElem?_modify_eq] at hj
    cases hc : calls[i]? with
    | none => simp [hc] at hj
    | some m =>
      have untold := h m (List.mem_of_getElem? hc)
      simp [hc] at hj
      omega
  · simp only [Markers.tell, List.getElem?_modify_ne _ _ hij] at hj
    rw [h n (List.mem_of_getElem? hj)]
    decide

/-- The step lemma: each call keeps what the calls keep of the markers. -/
theorem Told.bootCall {f : Forwarder} (h : f.Told) (c : BootCall) : (f.bootCall c).1.Told := by
  cases c with
  | mark =>
    rw [bootCall_mark]
    cases hf : f.boot.fired with
    | true => rwa [markBoot_of_fired f hf]
    | false =>
      have told := markers_markBoot_of_unfired f hf
      refine ⟨?_, fun fired => ?_, fun m hm => ?_⟩
      · rw [told]
        cases f.boot.marker with
        | none => exact fun n hn => by rw [h.unfired hf n hn]; decide
        | some i => exact once_tell (h.unfired hf) i
      · simp [markBoot, BootSignal.mark, hf] at fired
      · rw [marker_markBoot] at hm
        rw [told]
        cases hi : f.boot.marker with
        | none => simp [hi] at hm
        | some i => simpa [Markers.tell] using h.attached m hm
  | attach =>
    rw [bootCall_attach]
    refine ⟨fun n hn => ?_, fun fired n hn => ?_, fun m hm => ?_⟩
    · rw [calls_addMarker] at hn
      rcases List.mem_append.mp hn with old | fresh
      · exact h.once n old
      · simp at fresh
        omega
    · rw [calls_addMarker] at hn
      rcases List.mem_append.mp hn with old | fresh
      · exact h.unfired (by rwa [fired_addMarker] at fired) n old
      · simpa using fresh
    · rw [marker_addMarker] at hm
      rw [calls_addMarker, List.length_append]
      cases hi : f.boot.marker with
      | none =>
        simp only [hi, Option.none_or, Option.some.injEq] at hm
        simp [hm]
      | some i =>
        simp only [hi, Option.some_or, Option.some.injEq] at hm
        have := h.attached i hi
        simp only [List.length_cons, List.length_nil]
        omega

/-- The run lemma for `Told`. -/
theorem Told.bootCalls {f : Forwarder} (h : f.Told) (cs : List BootCall) : (f.bootCalls cs).Told := by
  induction cs generalizing f with
  | nil => exact h
  | cons c cs ih => exact ih (h.bootCall c)

/-- The mark that fires the signal tells its marker, untold until then, once. -/
theorem Told.markBoot_tells {f : Forwarder} (h : f.Told) (unfired : f.boot.fired = false) {m : Nat}
    (hm : f.boot.marker = some m) : f.markBoot.1.markers.calls[m]? = some 1 := by
  have within := h.attached m hm
  rw [markers_markBoot_of_unfired f unfired, hm]
  show (f.markers.tell m).calls[m]? = some 1
  simp only [Markers.tell, List.getElem?_modify_eq]
  rw [List.getElem?_eq_getElem within, h.unfired unfired _ (List.getElem_mem within)]
  rfl

/-- After the signal fired, the counts of the markers there are stay as they are. -/
theorem calls_bootCalls_of_fired {f : Forwarder} (h : f.boot.fired = true) {m : Nat}
    (hm : m < f.markers.calls.length) (cs : List BootCall) :
    (f.bootCalls cs).markers.calls[m]? = f.markers.calls[m]? := by
  induction cs generalizing f with
  | nil => rfl
  | cons c cs ih =>
    cases c with
    | mark =>
      rw [bootCalls_cons, bootCall_mark, markBoot_of_fired f h]
      exact ih h hm
    | attach =>
      have grown : m < f.addMarker.1.markers.calls.length := by simp; omega
      rw [bootCalls_cons, bootCall_attach, ih (by simpa using h) grown, calls_addMarker,
        List.getElem?_append_left hm]

end Forwarder

/-- **The boot signal.** It fires exactly when a send went through, if it marks the
first transmit, and tells an attached marker exactly once. -/
theorem boot_signal_follows_sends :
    (∀ {env : Surroundings} {w : World}, Reachable env w → ∀ (config : Config) (ops : List Op),
      World.Allows env (w.addForwarder config).1 ops →
      let f := ((w.addForwarder config).1.run env ops).fwd w.fwds.length
      (config.bootMark = .firstTransmit → (f.boot.fired = true ↔ 0 < f.stats.sent)) ∧
      (config.bootMark = .manual → f.boot.fired = false)) ∧
    (∀ (config : Config) (before : List BootCall),
      ((Forwarder.new config).bootCalls before).markBoot.2 = true ↔ BootCall.mark ∉ before) ∧
    (∀ (config : Config) (calls : List BootCall),
      ∀ n ∈ ((Forwarder.new config).bootCalls calls).markers.calls, n ≤ 1) ∧
    (∀ (config : Config) (before after : List BootCall), BootCall.mark ∉ before → BootCall.attach ∈ before →
      ∃ m, ((Forwarder.new config).bootCalls (before ++ .mark :: after)).boot.marker = some m ∧
        ((Forwarder.new config).bootCalls (before ++ .mark :: after)).markers.calls[m]? = some 1) := by
  refine ⟨fun h config ops hops => ?_, fun config before => ?_, fun config calls => ?_,
    fun config before after unmarked attached => ?_⟩
  · intro f
    have fired := (h.stats_run config hops).2.2
    refine ⟨fun first => ?_, fun manual => ?_⟩
    · simpa [first] using fired
    · cases hf : f.boot.fired with
      | false => rfl
      | true => exact absurd (fired.mp hf).1 (by rw [manual]; decide)
  · have fired := Forwarder.fired_new_bootCalls config before
    rw [Forwarder.markBoot_answer]
    cases hb : ((Forwarder.new config).bootCalls before).boot.fired with
    | false => simpa [hb] using fired
    | true => simpa [hb] using fired
  · exact ((Forwarder.told_new config).bootCalls calls).once
  · have told := (Forwarder.told_new config).bootCalls before
    have unfired : ((Forwarder.new config).bootCalls before).boot.fired = false := by
      cases hf : ((Forwarder.new config).bootCalls before).boot.fired with
      | false => rfl
      | true => exact absurd ((Forwarder.fired_new_bootCalls config before).mp hf) unmarked
    obtain ⟨m, hm⟩ := Forwarder.isSome_marker_bootCalls (Forwarder.new config) attached
    rw [Forwarder.bootCalls_append, Forwarder.bootCalls_cons, Forwarder.bootCall_mark]
    generalize (Forwarder.new config).bootCalls before = g at told unfired hm ⊢
    have hlt := (told.bootCall .mark).attached m (by rw [Forwarder.bootCall_mark, Forwarder.marker_markBoot, hm])
    rw [Forwarder.bootCall_mark] at hlt
    refine ⟨m, ?_, ?_⟩
    · exact Forwarder.marker_bootCalls (by rw [Forwarder.marker_markBoot, hm]) after
    · rw [Forwarder.calls_bootCalls_of_fired (Forwarder.markBoot_fired g) hlt, told.markBoot_tells unfired hm]

/-- A forwarder added to the empty world has a boot signal that follows its
sends; a signal given one marker and then marked twice tells it once. -/
theorem attached_marker_told_once :
    let env : Surroundings := ⟨Net.Machine.isolated, none⟩
    let config := Config.defaults none
    Reachable env World.empty ∧ World.Allows env (World.empty.addForwarder config).1 [] ∧
    (let f := ((World.empty.addForwarder config).1.run env []).fwd World.empty.fwds.length
     (config.bootMark = .firstTransmit → (f.boot.fired = true ↔ 0 < f.stats.sent)) ∧
     (config.bootMark = .manual → f.boot.fired = false)) ∧
    BootCall.mark ∉ [BootCall.attach] ∧ BootCall.attach ∈ [BootCall.attach] ∧
    ∃ m, ((Forwarder.new config).bootCalls ([.attach] ++ .mark :: [.mark])).boot.marker = some m ∧
      ((Forwarder.new config).bootCalls ([.attach] ++ .mark :: [.mark])).markers.calls[m]? = some 1 := by
  intro env config
  have h : Reachable env World.empty := .start
  have unmarked : BootCall.mark ∉ [BootCall.attach] := by decide
  have attached : BootCall.attach ∈ [BootCall.attach] := by decide
  exact ⟨h, trivial, boot_signal_follows_sends.1 h config [] trivial, unmarked, attached,
    boot_signal_follows_sends.2.2.2 config [.attach] [.mark] unmarked attached⟩

end SyslogRelay.Relay
