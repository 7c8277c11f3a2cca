import SyslogRelay.Proofs.Teardown
import SyslogRelay.Proofs.Transitions

/-!
What a drain sends when the wire logs records from inside each send.
-/

namespace SyslogRelay.Entry

open SyslogRelay.Text

/-- The entry once record `x` joined it, as a backlog joins text to its open
newest entry: cut to a line, then to the room the entry has left. -/
def grow (e : Entry) (x : Relay.LogRecord) : Entry :=
  { e with text := e.text ++ cutBytes (cutBytes x.text Relay.maxLineBytes) (maxEntryBytes - e.text.utf8ByteSize) }

/-- The newest entry once records `xs` were deferred one after another. -/
def absorb (e : Entry) : List Relay.LogRecord → Entry
  | [] => e
  | x :: xs =>
    if (cutBytes x.text Relay.maxLineBytes).isEmpty then e.absorb xs
    else if e.isOpenFor x.task then (e.grow x).absorb xs
    else e

/-- What entry `e`, with the entries `behind` it, becomes as records `xs` are
deferred: only the newest entry takes anything in. -/
def final (e : Entry) (behind : List Entry) (xs : List Relay.LogRecord) : Entry :=
  if behind = [] then e.absorb xs else e

end SyslogRelay.Entry

namespace SyslogRelay.Backlog

open SyslogRelay.Text

/-- The backlog once the record a wire logged, if any, is deferred into it. -/
def takeLogged (b : Backlog) : Option Relay.LogRecord → Backlog
  | some x => (b.append x.task (cutBytes x.text Relay.maxLineBytes)).1
  | none => b

/-- The backlog once the records a wire logged are deferred into it in turn. -/
def takeAll (b : Backlog) (xs : List Relay.LogRecord) : Backlog :=
  xs.foldl (fun b x => b.takeLogged (some x)) b

/-- What `n` rounds of a drain take out when every send defers `xs`: the oldest
entry, then what the rounds left take out of the backlog once it took `xs` in. -/
def drainRounds (b : Backlog) (xs : List Relay.LogRecord) : Nat → List Entry
  | 0 => []
  | n + 1 =>
    match b.drainOne with
    | (b', some e) => e :: (b'.takeAll xs).drainRounds xs n
    | (_, none) => []

/-- The entries `es` as a drain that defers `xs` on every send takes them out
when nothing is pushed out: as they were, save the newest, which took in the
records of the sends before its turn. -/
def asDrained (es : List Entry) (xs : List Relay.LogRecord) : List Entry :=
  es.dropLast ++ (es.getLast?.map fun e => e.absorb (List.replicate (es.length - 1) xs).flatten).toList

variable {b : Backlog} {xs : List Relay.LogRecord}

theorem capacity_takeLogged (x : Option Relay.LogRecord) : (b.takeLogged x).capacity = b.capacity := by
  cases x <;> simp [takeLogged, capacity_append]

theorem capacity_takeAll : (b.takeAll xs).capacity = b.capacity := by
  induction xs generalizing b with
  | nil => rfl
  | cons x xs ih => exact ih.trans (capacity_takeLogged _)

theorem len_le_push (task : Option String) (text : String) : b.len ≤ (b.push task text).1.len := by
  unfold push len
  split
  · simp
    omega
  · simp

/-- An append never shortens a backlog: a full one pushes its oldest entry out
for the new one. -/
theorem len_le_append (task : Option String) (text : String) : b.len ≤ (b.append task text).1.len := by
  unfold append
  split
  · exact Nat.le_refl _
  · split
    · rename_i newest hlast
      split
      · have hne : b.entries ≠ [] := fun h => by simp [h] at hlast
        simp only [len, List.length_append, List.length_dropLast, List.length_singleton]
        have := List.length_pos_iff.mpr hne
        omega
      · exact len_le_push task text
    · exact len_le_push task text

theorem length_le_takeAll : b.entries.length ≤ (b.takeAll xs).entries.length := by
  induction xs generalizing b with
  | nil => exact Nat.le_refl _
  | cons x xs ih => exact Nat.le_trans (len_le_append x.task _) ih

/-- With room for one more entry, a deferred record changes nothing in front of
the entry `cur`, and what `cur` becomes over the records still to come is as
before: it took the record in, was passed by, or got an entry behind it. -/
theorem entries_takeLogged {front ns : List Entry} {cur : Entry} (hb : b.entries = front ++ cur :: ns)
    (hroom : b.entries.length < b.capacity) (x : Relay.LogRecord) :
    ∃ cur' ns', (b.takeLogged (some x)).entries = front ++ cur' :: ns' ∧
      ∀ ys, cur'.final ns' ys = cur.final ns (x :: ys) := by
  by_cases hs : (cutBytes x.text Relay.maxLineBytes).isEmpty = true
  · refine ⟨cur, ns, ?_, fun ys => by simp [Entry.final, Entry.absorb, hs]⟩
    simp only [takeLogged, append, hs, or_true, ↓reduceIte, hb]
  have stored : ¬(b.capacity = 0 ∨ (cutBytes x.text Relay.maxLineBytes).isEmpty = true) := by
    rintro (h | h)
    · omega
    · exact hs h
  have fits : ¬(b.entries.length = b.capacity) := by omega
  simp only [takeLogged, append, push, if_neg stored, if_neg fits]
  rcases List.eq_nil_or_concat ns with rfl | ⟨ns₀, n, rfl⟩
  · have hlast : b.entries.getLast? = some cur := by rw [hb]; simp
    rw [hlast]
    by_cases ho : cur.isOpenFor x.task
    · refine ⟨cur.grow x, [], by simp [ho, hb, Entry.grow], fun ys => ?_⟩
      simp [Entry.final, Entry.absorb, hs, ho]
    · refine ⟨cur, [⟨x.task, cutBytes (cutBytes x.text Relay.maxLineBytes) maxEntryBytes⟩], by simp [ho, hb],
        fun ys => ?_⟩
      simp [Entry.final, Entry.absorb, hs, ho]
  · rw [List.concat_eq_append] at hb
    have hb' : b.entries = (front ++ cur :: ns₀) ++ [n] := by rw [hb]; simp
    have hlast : b.entries.getLast? = some n := by rw [hb']; exact List.getLast?_concat
    rw [hlast]
    by_cases ho : n.isOpenFor x.task
    · refine ⟨cur, ns₀ ++ [n.grow x], ?_, fun ys => by simp [Entry.final]⟩
      have dropped : (cur :: (ns₀ ++ [n])).dropLast = cur :: ns₀ := by
        rw [← List.cons_append, List.dropLast_concat]
      simp [ho, hb', Entry.grow, dropped]
    · refine ⟨cur, ns₀ ++ [n, ⟨x.task, cutBytes (cutBytes x.text Relay.maxLineBytes) maxEntryBytes⟩], by simp [ho, hb'],
        fun ys => by simp [Entry.final]⟩

/-- The records of one send, with room for each to start an entry: nothing in
front of `cur` changes, the backlog grows by at most one entry a record, and
`cur` becomes over the records to come what it would after these. -/
theorem entries_takeAll {front : List Entry} (xs : List Relay.LogRecord) :
    ∀ {b : Backlog} {cur : Entry} {ns : List Entry}, b.entries = front ++ cur :: ns →
      b.entries.length + xs.length ≤ b.capacity →
      ∃ cur' ns', (b.takeAll xs).entries = front ++ cur' :: ns' ∧
        (b.takeAll xs).entries.length ≤ b.entries.length + xs.length ∧
        ∀ ys, cur'.final ns' ys = cur.final ns (xs ++ ys) := by
  induction xs with
  | nil => exact fun hb _ => ⟨_, _, hb, Nat.le_refl _, fun _ => rfl⟩
  | cons x xs ih =>
    intro b cur ns hb hroom
    rw [List.length_cons] at hroom
    obtain ⟨cur₁, ns₁, hb₁, fate₁⟩ := entries_takeLogged hb (by omega) x
    have grew : (b.takeLogged (some x)).entries.length ≤ b.entries.length + 1 := len_append_le b _ _
    obtain ⟨cur', ns', hb', len', fate'⟩ := ih (b := b.takeLogged (some x)) hb₁
      (by rw [capacity_takeLogged]; omega)
    refine ⟨cur', ns', hb', ?_, fun ys => by rw [fate', fate₁, List.cons_append]⟩
    rw [List.length_cons]
    exact Nat.le_trans len' (by omega)

theorem drainOne_of_cons {e : Entry} {rest : List Entry} (hb : b.entries = e :: rest) :
    b.drainOne = ({ b with entries := rest }, some e) := by
  unfold drainOne
  rw [hb]

/-- The rounds that take out the entries in front of `cur` leave them as they
were, and take `cur` out as it became over the records of those rounds. -/
theorem drainRounds_split (xs : List Relay.LogRecord) (front : List Entry) :
    ∀ {cur : Entry} {ns : List Entry} {b : Backlog}, b.entries = front ++ cur :: ns →
      b.entries.length + front.length * (xs.length - 1) ≤ b.capacity →
      b.drainRounds xs (front.length + 1) = front ++ [cur.final ns (List.replicate front.length xs).flatten] := by
  -- one round per entry of `front`: the oldest goes, the send's records come in behind it
  induction front with
  | nil =>
    intro cur ns b hb _
    simp [drainRounds, drainOne, hb, Entry.final, Entry.absorb]
  | cons e front ih =>
    intro cur ns b hb hroom
    obtain ⟨b₁, hd, hb₁, hcap₁⟩ : ∃ b₁, b.drainOne = (b₁, some e) ∧ b₁.entries = front ++ cur :: ns ∧
        b₁.capacity = b.capacity :=
      ⟨_, drainOne_of_cons (by rw [hb, List.cons_append]), rfl, rfl⟩
    have hlen : b.entries.length = b₁.entries.length + 1 := by rw [hb, hb₁]; simp
    rw [List.length_cons, Nat.succ_mul] at hroom
    obtain ⟨cur', ns', taken, grew, fate⟩ := entries_takeAll xs hb₁ (by omega)
    have rest := ih taken (by rw [capacity_takeAll, hcap₁]; omega)
    rw [List.length_cons, drainRounds.eq_2, hd]
    dsimp only
    rw [rest, fate, List.replicate_succ, List.flatten_cons, List.cons_append]

/-- With room for what the sends push in, a drain takes out the entries as they
were, save the newest, grown by what joined it. -/
theorem drainRounds_length (hroom : b.entries.length + (b.entries.length - 1) * (xs.length - 1) ≤ b.capacity) :
    b.drainRounds xs b.entries.length = asDrained b.entries xs := by
  rcases List.eq_nil_or_concat b.entries with hnil | ⟨front, last, hb⟩
  · rw [hnil]
    rfl
  · have hb' : b.entries = front ++ [last] := by rw [hb, List.concat_eq_append]
    rw [hb'] at hroom
    have split := drainRounds_split xs front hb' (by rw [hb']; simpa using hroom)
    rw [hb', List.length_append, List.length_singleton, split]
    simp [asDrained, Entry.final]

/-- Each round takes out one entry: a deferred record never shortens the backlog. -/
theorem length_drainRounds (n : Nat) : ∀ {b : Backlog}, n ≤ b.entries.length → (b.drainRounds xs n).length = n := by
  induction n with
  | zero => exact fun _ => rfl
  | succ n ih =>
    intro b hn
    obtain ⟨e, rest, hb⟩ : ∃ e rest, b.entries = e :: rest := by
      cases h : b.entries with
      | nil => rw [h] at hn; simp at hn
      | cons e rest => exact ⟨e, rest, rfl⟩
    rw [hb, List.length_cons] at hn
    rw [drainRounds.eq_2, drainOne_of_cons hb]
    dsimp only
    rw [List.length_cons, ih (Nat.le_trans (by simpa using hn) length_le_takeAll)]

end SyslogRelay.Backlog

namespace SyslogRelay.Relay

open SyslogRelay.Text

namespace Trail

/-! ### What a send leaves on the wires -/

section Wires

variable (w : World) (k : Nat)

theorem wires_echo (r : LogRecord) : (echo w k r).world.wires = w.wires := by
  unfold echo
  split <;> simp

theorem wires_defer (r : LogRecord) : (defer w k r).world.wires = w.wires := by
  unfold defer
  dsimp only
  split
  · exact wires_fallBack w k _ r
  · split
    · exact wires_fallBack w k _ r
    · rw [after_world, wires_echo]
      split <;> rfl

theorem wires_dispatchInside (r : LogRecord) : (dispatchInside w r).world.wires = w.wires := by
  unfold dispatchInside
  split
  · rw [bind_world, wires_defer]
    rfl
  · rw [bind_world, wires_defer]
    rfl
  · exact World.keep_wires w _ r

theorem wires_dispatchAllInside (rs : List LogRecord) : (dispatchAllInside w rs).world.wires = w.wires := by
  induction rs generalizing w with
  | nil => rfl
  | cons r rs ih => rw [dispatchAllInside, bind_world, ih, wires_dispatchInside]

theorem wires_logAttempt (s : ScriptedWire) : (logAttempt w s).world.wires = w.wires :=
  wires_dispatchAllInside w s.onSend

theorem wires_replay (P : Sink) (es : List Entry) : (replay w k P es).world.wires = w.wires := by
  induction es generalizing w with
  | nil => rfl
  | cons e es ih => rw [replay, bind_world, ih, wires_fallBack]

theorem wires_disable (E : Net.LinkError) (P : Sink) (r : LogRecord) : (disable w k E P r).world.wires = w.wires := by
  unfold disable
  dsimp only
  split <;> simp [wires_replay, World.takeBacklog, World.count, World.settle]

theorem wires_teardown (E : Net.LinkError) (unsent : Option Entry) (r : LogRecord) :
    (teardown w k E unsent r).world.wires = w.wires := by
  unfold teardown
  have last : ∀ v : World, v.wires = w.wires →
      (if (v.fwd k).state ≠ .active then fallBack v k (w.previousSink k) r
        else disable v k E (w.previousSink k) r).world.wires = w.wires := by
    intro v hv
    split
    · rw [wires_fallBack, hv]
    · rw [wires_disable, hv]
  cases unsent with
  | none => exact last w rfl
  | some e => exact last _ (wires_fallBack w k _ _)

theorem payloads_closeChannel (c : Channel) (i : Nat) :
    ((w.closeChannel c).wire i).map Wire.payloads = (w.wire i).map Wire.payloads := by
  cases c with
  | udp _ => rfl
  | wire j =>
    simp only [World.closeChannel, World.wire, World.updateWire, List.getElem?_modify]
    by_cases h : j = i
    · rcases w.wires[i]? with _ | (_ | _) <;> simp [h, Wire.payloads]
    · simp [h]

/-- Giving up after a failed send closes the link and sends nothing more. -/
theorem payloads_giveUp (l : Link) (E : Net.LinkError) (unsent : Option Entry) (r : LogRecord) (i : Nat) :
    ((giveUp w k l E unsent r).world.wire i).map Wire.payloads = (w.wire i).map Wire.payloads := by
  unfold giveUp
  rw [World.wire, wires_teardown, ← World.wire, payloads_closeChannel]
  rfl

variable {w} {i : Nat} {s : ScriptedWire}

/-- A send over a scripted wire: the attempt is counted, the record the wire
logs reaches the slot, and then the attempt takes the wire's next outcome. -/
theorem sendScripted_eq (hw : w.wire i = some (.scripted s)) (p : String) :
    sendScripted w i p =
      (⟨(logAttempt (w.updateWire i fun _ => .scripted { s with attempts := s.attempts + 1 }) s).world.updateWire i
          fun _ => .scripted (s.attempt p),
        (logAttempt (w.updateWire i fun _ => .scripted { s with attempts := s.attempts + 1 }) s).effects⟩,
        (s.outcome 0).elim (.ok ()) .error) := by
  have counted : (logAttempt (w.updateWire i fun _ => .scripted { s with attempts := s.attempts + 1 }) s).world.wire i =
      some (.scripted { s with attempts := s.attempts + 1 }) := by
    rw [World.wire, wires_logAttempt, ← World.wire, World.wire_updateWire_self, hw]
    rfl
  have first : ({ s with attempts := s.attempts + 1 } : ScriptedWire).next.1 = s.outcome 0 := by
    rw [ScriptedWire.next_eq]
    rfl
  simp only [sendScripted, hw, World.settleSend, counted, ScriptedWire.attempt]
  generalize ({ s with attempts := s.attempts + 1 } : ScriptedWire).next = q at first ⊢
  rcases q with ⟨_ | e, s'⟩ <;> simp only at first <;> rw [← first] <;> rfl

/-- A send's answer is a delivery exactly when the wire had no failure next. -/
theorem sendResult_ok_iff {o : Option Net.LinkError} :
    (o.elim (.ok ()) .error : Except Net.LinkError Unit) = .ok () ↔ o = none := by
  cases o <;> simp

theorem sendResult_error_iff {o : Option Net.LinkError} {E : Net.LinkError} :
    (o.elim (.ok ()) .error : Except Net.LinkError Unit) = .error E ↔ o = some E := by
  cases o <;> simp

/-- The records handed to the slot while forwarder `k`'s sink holds it are
deferred into its backlog in turn. -/
theorem backlog_dispatchAllInside (hslot : w.slot.sink = .forwarding k) {b : Backlog}
    (hb : (w.fwd k).backlog = some b) (rs : List LogRecord) :
    ((dispatchAllInside w rs).world.fwd k).backlog = some (b.takeAll rs) := by
  induction rs generalizing w b with
  | nil => exact hb
  | cons r rs ih =>
    have calm := calm_dispatchInside w r
    have stored : ((dispatchInside w r).world.fwd k).backlog = some (b.takeLogged (some r)) := by
      simp only [dispatchInside, hslot, bind_world, emit_world]
      exact backlog_defer_of_some hb r
    rw [dispatchAllInside, bind_world]
    exact ih (by rw [calm.slot]; exact hslot) stored

/-- A send over scripted wire `i` leaves the wire one attempt on and answers the
link with the outcome the wire had next; the records the wire logs are deferred
into the backlog of the forwarder whose sink holds the slot. -/
theorem transmit_over_wire {l : Link} (hl : l.channel = .wire i) (hw : w.wire i = some (.scripted s))
    (env : Surroundings) (task : Option String) (text : String) :
    (transmit env w k l task text).1.world.wire i = some (.scripted (s.attempt (l.encoder.encode text task))) ∧
      (transmit env w k l task text).2 = (l, (s.outcome 0).elim (.ok ()) .error) ∧
      ∀ b, w.slot.sink = .forwarding k → (w.fwd k).backlog = some b →
        ((transmit env w k l task text).1.world.fwd k).backlog = some (b.takeAll s.onSend) := by
  generalize hu : logAttempt (w.updateWire i fun _ => .scripted { s with attempts := s.attempts + 1 }) s = u
  have hwire : (u.world.updateWire i fun _ => .scripted (s.attempt (l.encoder.encode text task))).wire i =
      some (.scripted (s.attempt (l.encoder.encode text task))) := by
    rw [World.wire_updateWire_self, World.wire, ← hu, wires_logAttempt, ← World.wire, World.wire_updateWire_self, hw]
    rfl
  have hback : ∀ b, w.slot.sink = .forwarding k → (w.fwd k).backlog = some b →
      ((u.world.updateWire i fun _ => .scripted (s.attempt (l.encoder.encode text task))).fwd k).backlog =
        some (b.takeAll s.onSend) := by
    intro b hslot hb
    rw [← hu]
    exact backlog_dispatchAllInside k (w := w.updateWire i fun _ => .scripted { s with attempts := s.attempts + 1 })
      hslot hb s.onSend
  unfold transmit
  simp only [hl, sendScripted_eq hw, hu]
  cases ho : s.outcome 0 with
  | none => exact ⟨by simp [World.wire_countSent, hwire], by simp, fun b hs hb => by simp [backlog_countSent, hback b hs hb]⟩
  | some e => exact ⟨by simp [hwire], by simp, fun b hs hb => by simp [hback b hs hb]⟩

end Wires

section Loop

variable {k i : Nat} (env : Surroundings) (r : LogRecord)

/-- The record's own send goes out if the wire's next outcome is a delivery. -/
theorem payloads_sendLast {v : World} {l : Link} (hl : l.channel = .wire i) {s : ScriptedWire}
    (hw : v.wire i = some (.scripted s)) {j : Nat} (hout : ∀ m < j, s.outcome m = none)
    (hend : j < 1 → ∃ E, s.outcome j = some E) :
    ((sendLast env v k r l).world.wire i).map Wire.payloads =
      some (s.payloads ++ [l.encoder.encode (cutBytes r.text maxLineBytes) r.task].take j) := by
  obtain ⟨sent, result, -⟩ := transmit_over_wire k hl hw env r.task (cutBytes r.text maxLineBytes)
  unfold sendLast
  rcases ht : transmit env v k l r.task (cutBytes r.text maxLineBytes) with ⟨t, l', o⟩
  rw [ht] at sent result
  simp only [Prod.mk.injEq] at result
  obtain ⟨rfl, rfl⟩ := result
  cases j with
  | zero =>
    obtain ⟨E, hE⟩ := hend Nat.zero_lt_one
    simp only [hE, Option.elim_some, bind_world, payloads_giveUp, sent]
    simp [Wire.payloads, ScriptedWire.payloads_attempt_of_some _ _ hE]
  | succ j =>
    have went := hout 0 (by omega)
    simp only [went, Option.elim_none, bind_world]
    rw [World.wire, wires_echo, World.wires_updateFwd, ← World.wire, sent]
    simp [Wire.payloads, ScriptedWire.payloads_attempt_of_none _ _ went]

theorem payloads_drainThenSend (pending : Nat) (v : World) (l : Link) {s : ScriptedWire} {b : Backlog} {j : Nat}
    (hl : l.channel = .wire i) (hw : v.wire i = some (.scripted s)) (hslot : v.slot.sink = .forwarding k)
    (hb : (v.fwd k).backlog = some b) (hout : ∀ m < j, s.outcome m = none)
    (hend : j < (b.drainRounds s.onSend pending).length + 1 → ∃ E, s.outcome j = some E) :
    ((drainThenSend env v k r l pending).world.wire i).map Wire.payloads =
      some (s.payloads ++ ((b.drainRounds s.onSend pending).map (fun e => l.encoder.encode e.text e.task) ++
        [l.encoder.encode (cutBytes r.text maxLineBytes) r.task]).take j) := by
  fun_induction drainThenSend env v k r l pending generalizing s b j with
  | case1 v l =>
    exact payloads_sendLast env r hl hw hout hend
  | case2 v l pending b₁ e hd v₁ v₂ t l' =>
    rename_i sent ih
    have hb₁ : b.drainOne = (b₁, some e) := by
      rw [hb, Option.map_some, Option.some.injEq] at hd
      exact hd
    have hw₂ : v₂.wire i = some (.scripted s) := hw
    have hslot₂ : v₂.slot.sink = .forwarding k := hslot
    obtain ⟨wire₁, result₁, back₁⟩ := transmit_over_wire k hl hw₂ env e.task e.text
    have calm₁ := calm_transmit v₂ k env l e.task e.text
    rw [sent] at wire₁ result₁ back₁ calm₁
    obtain ⟨rfl, went⟩ := Prod.mk.inj result₁
    have ho : s.outcome 0 = none := sendResult_ok_iff.mp went.symm
    obtain ⟨j, rfl⟩ : ∃ j', j = j' + 1 := by
      cases j with
      | zero =>
        obtain ⟨E, hE⟩ := hend (Nat.zero_lt_succ _)
        rw [hE] at ho
        cases ho
      | succ j => exact ⟨j, rfl⟩
    have rest := ih t.world (s := s.attempt (l'.encoder.encode e.text e.task)) (b := b₁.takeAll s.onSend) (j := j)
      hl wire₁ (by rw [World.slot_updateFwd, calm₁.slot]; exact hslot₂) 
      (by
        rw [World.backlog_updateFwd _ k k (fun f => { f with link := some l' }) fun _ => rfl]
        exact back₁ b₁ hslot₂ (backlog_drained v k hd))
      (fun m hm => by rw [ScriptedWire.outcome_attempt]; exact hout (m + 1) (by omega))
      (fun hj => by
        rw [ScriptedWire.outcome_attempt]
        refine hend ?_
        simp only [Backlog.drainRounds, hb₁, List.length_cons, ScriptedWire.onSend_attempt] at hj ⊢
        omega)
    rw [bind_world, rest, ScriptedWire.payloads_attempt_of_none _ _ ho, ScriptedWire.onSend_attempt]
    simp [Backlog.drainRounds, hb₁]
  | case3 v l pending b₁ e hd v₁ v₂ t l' =>
    rename_i err failed
    have hw₂ : v₂.wire i = some (.scripted s) := hw
    obtain ⟨wire₁, result₁, -⟩ := transmit_over_wire k hl hw₂ env e.task e.text
    rw [failed] at wire₁ result₁
    obtain ⟨-, refused⟩ := Prod.mk.inj result₁
    have ho : s.outcome 0 = some err := sendResult_error_iff.mp refused.symm
    have hj : j = 0 := by
      cases j with
      | zero => rfl
      | succ j =>
        have := hout 0 (Nat.zero_lt_succ _)
        rw [ho] at this
        cases this
    subst hj
    rw [bind_world, payloads_giveUp, wire₁]
    simp [Wire.payloads, ScriptedWire.payloads_attempt_of_some _ _ ho]
  | case4 v l pending hnone =>
    have dry : b.drainRounds s.onSend (pending + 1) = [] := by
      rw [Backlog.drainRounds]
      rcases hd : b.drainOne with ⟨b₁, _ | e⟩
      · rfl
      · exact absurd (by rw [hb, Option.map_some, hd]) (hnone b₁ e)
    rw [dry] at hend ⊢
    exact payloads_sendLast env r hl hw hout hend

end Loop

end Trail

end SyslogRelay.Relay

namespace SyslogRelay.Relay

open SyslogRelay.Text

/-- A drain sends what waited when it began, in order, then the record, and stops
at the first failed send; with room, the entries go out as they waited. -/
theorem log_sends_waiting_entries {env : Surroundings} {w : World} (hw : Reachable env w) {k i : Nat} {l : Link}
    {s : ScriptedWire} {b : Backlog} (hslot : w.slot.sink = .forwarding k) (hb : (w.fwd k).backlog = some b)
    (hl : (w.fwd k).link = some l) (hch : l.channel = .wire i) (hwire : w.wire i = some (.scripted s))
    {r : LogRecord} (hr : (w.fwd k).config.isConflicting r.task = false) {j : Nat}
    (hout : ∀ m < j, s.outcome m = none) (hend : j ≤ b.entries.length → ∃ E, s.outcome j = some E) :
    ((w.log env r).wire i).map Wire.payloads =
      some (s.payloads ++ ((b.drainRounds s.onSend b.entries.length ++
        [(⟨r.task, cutBytes r.text maxLineBytes⟩ : Entry)]).map fun e => l.encoder.encode e.text e.task).take j) ∧
    (b.entries.length + (b.entries.length - 1) * (s.onSend.length - 1) ≤ b.capacity →
      b.drainRounds s.onSend b.entries.length = Backlog.asDrained b.entries s.onSend) := by
  have hc := hw.coherent
  have forwarded : w.log env r =
      { (Trail.drainThenSend env { w with inside := true } k r l b.entries.length).world with inside := w.inside } := by
    simp only [World.log_eq hc.sound.plain, Trail.dispatch, hslot, Trail.bind_world, Trail.emit_world,
      Trail.forward, hc.outside, hr, Bool.or_false, Bool.false_eq_true, ↓reduceIte, World.fwd_inside, hl,
      hb, Option.map_some, Option.getD_some, Trail.within_world]
    rfl
  have loop := Trail.payloads_drainThenSend env r b.entries.length { w with inside := true } l (k := k) hch hwire
    hslot hb hout (by
      rw [Backlog.length_drainRounds _ (Nat.le_refl _)]
      intro hj
      exact hend (by omega))
  refine ⟨?_, Backlog.drainRounds_length⟩
  rw [forwarded, List.map_append, List.map_singleton]
  exact loop

/-- A forwarder over a wire that logs a line of task `wifi` and one of `main`
on every send holds a finished line and an open one of `wifi`; a line of
`main` drains both. -/
theorem open_entry_grows_while_draining :
    let env : Surroundings := ⟨Net.Machine.isolated, none⟩
    let s := ScriptedWire.new none 0 [⟨some "wifi", "c"⟩, ⟨some "main", "d\n"⟩]
    let w := (((World.empty.apply env (.addForwarder (Config.defaults none))).apply env
      (.activate 0 s none true false)).apply env (.log ⟨some "wifi", "a\n"⟩)).apply env (.log ⟨some "wifi", "b"⟩)
    let b : Backlog := ⟨64, [⟨some "wifi", "a\n"⟩, ⟨some "wifi", "b"⟩], 0⟩
    let l : Link := ⟨.wire 0, .raw⟩
    let r : LogRecord := ⟨some "main", "r\n"⟩
    ((w.log env r).wire 0).map Wire.payloads =
      some (s.payloads ++ ((b.drainRounds s.onSend b.entries.length ++
        [(⟨r.task, cutBytes r.text maxLineBytes⟩ : Entry)]).map fun e => l.encoder.encode e.text e.task).take 3) ∧
    (b.entries.length + (b.entries.length - 1) * (s.onSend.length - 1) ≤ b.capacity →
      b.drainRounds s.onSend b.entries.length = Backlog.asDrained b.entries s.onSend) := by
  intro env s w b l r
  have hw : Reachable env w :=
    .next _ (.next _ (.next _ (.next _ .start trivial) ⟨Nat.zero_lt_one, rfl⟩) trivial) trivial
  exact log_sends_waiting_entries hw (k := 0) (i := 0) (l := l) (s := s) (b := b) (by decide +kernel)
    (by decide +kernel) (by decide +kernel) rfl (by decide +kernel) (r := r) (by decide +kernel) (j := 3)
    (by decide) (fun h => absurd h (by decide))

/-- A backlog with room for two entries, over a wire that logs two lines on
every send: the second line pushes the waiting `b` out, and the drain sends
the wire's first line in its place. -/
example :
    let env : Surroundings := ⟨Net.Machine.isolated, none⟩
    let s := ScriptedWire.new none 0 [⟨some "wifi", "x\n"⟩, ⟨some "wifi", "y\n"⟩]
    let w := (((World.empty.apply env (.addForwarder { Config.defaults none with bufferCapacity := 2 })).apply env
      (.activate 0 s none true false)).apply env (.log ⟨some "wifi", "a\n"⟩)).apply env (.log ⟨some "wifi", "b\n"⟩)
    ((w.log env ⟨some "main", "r\n"⟩).wire 0).map Wire.payloads = some ["a\n", "x\n", "r\n"] := by
  decide +kernel

/-- The same call sends the wire's own line, joined to the open entry it drained
after the line came. -/
theorem drain_sends_line_logged_meanwhile :
    let env : Surroundings := ⟨Net.Machine.isolated, none⟩
    let s := ScriptedWire.new none 0 [⟨some "wifi", "c"⟩]
    let w := (((World.empty.apply env (.addForwarder (Config.defaults none))).apply env
      (.activate 0 s none true false)).apply env (.log ⟨some "wifi", "a\n"⟩)).apply env (.log ⟨some "wifi", "b"⟩)
    ((w.log env ⟨some "main", "r\n"⟩).wire 0).map Wire.payloads = some ["a\n", "bc", "r\n"] := by
  decide +kernel

end SyslogRelay.Relay
