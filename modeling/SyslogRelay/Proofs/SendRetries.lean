import SyslogRelay.Net.Link

/-!
Sending with retries, over any sequence of answers.
-/

namespace SyslogRelay

/-- A call that failed and is worth repeating. -/
def Transient (o : Option IoError) : Prop := ∃ e, o = some e ∧ classifyError e = .transient

variable {op : Nat → Option IoError}

@[simp] theorem retryLoop_zero (r : Nat) : retryLoop op 0 r = none := rfl

theorem retryLoop_success {r : Nat} (h : op r = none) (n : Nat) :
    retryLoop op (n + 1) r = some ⟨r + 1, .ok r⟩ := by
  simp [retryLoop, h]

theorem retryLoop_permanent {r : Nat} {e : IoError} (h : op r = some e)
    (he : classifyError e = .permanent) (n : Nat) :
    retryLoop op (n + 1) r = some ⟨r + 1, .error e⟩ := by
  simp [retryLoop, h, he]

/-- A transient failure spends one call and one retry. -/
theorem retryLoop_transient {r : Nat} (h : Transient (op r)) (n : Nat) :
    retryLoop op (n + 1) r = retryLoop op n (r + 1) := by
  obtain ⟨e, he, ht⟩ := h
  simp [retryLoop, he, ht]

/-- A run of `k` transient failures spends `k` calls and `k` retries. -/
theorem retryLoop_transients {r k : Nat} (h : ∀ i < k, Transient (op (r + i))) (n : Nat) :
    retryLoop op (n + k) r = retryLoop op n (r + k) := by
  induction k generalizing r with
  | zero => rfl
  | succ k ih =>
    have first : Transient (op r) := by simpa using h 0 (Nat.succ_pos k)
    have rest : ∀ i < k, Transient (op (r + 1 + i)) := fun i hi => by
      simpa [Nat.add_assoc, Nat.add_comm 1 i] using h (i + 1) (by omega)
    rw [show n + (k + 1) = n + k + 1 by omega, retryLoop_transient first, ih rest]
    rw [Nat.add_assoc, Nat.add_comm 1 k]

/-- While every call so far failed transiently, no allowance within them sees
the loop return. -/
theorem retryLoop_none_of_transients {k : Nat} (h : ∀ i < k, Transient (op i)) {n : Nat} (hn : n ≤ k) :
    retryLoop op n 0 = none := by
  have upto : ∀ i < n, Transient (op (0 + i)) := fun i hi => by
    simpa using h i (by omega)
  simpa using retryLoop_transients upto 0

/-- The loop returns what call `k` answers, once the `k` calls before it
failed transiently and it is allowed more than `k` calls. -/
theorem retryLoop_after_transients {k : Nat} (h : ∀ i < k, Transient (op i)) {n : Nat} (hn : k < n) :
    retryLoop op n 0 = retryLoop op (n - k) k := by
  have upto : ∀ i < k, Transient (op (0 + i)) := fun i hi => by
    simpa using h i hi
  have := retryLoop_transients upto (n - k)
  rwa [Nat.sub_add_cancel (Nat.le_of_lt hn), Nat.zero_add] at this

/-- After `k` transient failures, the loop answers for every allowance what it
answers from call `k` on, once it may make that call. -/
theorem retryLoop_of_transients {k : Nat} (h : ∀ i < k, Transient (op i)) {x : RetryReport}
    (hx : ∀ m, retryLoop op (m + 1) k = some x) (n : Nat) :
    retryLoop op n 0 = if k < n then some x else none := by
  split
  · rename_i hn
    obtain ⟨m, rfl⟩ : ∃ m, n = m + 1 + k := ⟨n - k - 1, by omega⟩
    rw [retryLoop_after_transients h hn, show m + 1 + k - k = m + 1 by omega, hx m]
  · exact retryLoop_none_of_transients h (by omega)

/-- The loop over a script, past whose end every call succeeds, is `retryLoop`
over the script read as a sequence; `r` calls are behind it. -/
theorem retryLoop_go (script : List (Option IoError)) (r : Nat)
    (hop : ∀ j, op (r + j) = script.getD j none) :
    retryLoop op (script.length + 1) r = some (sendWithRetry.go script r) := by
  induction script generalizing r with
  | nil => exact retryLoop_success (by simpa using hop 0) 0
  | cons x rest ih =>
    have first : op r = x := by simpa using hop 0
    have ahead : ∀ j, op (r + 1 + j) = rest.getD j none := fun j => by
      simpa [Nat.add_assoc, Nat.add_comm 1 j] using hop (j + 1)
    cases x with
    | none => simpa [sendWithRetry.go] using retryLoop_success first (rest.length + 1)
    | some e =>
      cases hc : classifyError e with
      | transient =>
        rw [List.length_cons, retryLoop_transient ⟨e, first, hc⟩, ih (r + 1) ahead]
        simp [sendWithRetry.go, hc]
      | permanent =>
        rw [retryLoop_permanent first hc]
        simp [sendWithRetry.go, hc]

theorem retryLoop_getD (script : List (Option IoError)) :
    retryLoop (fun i => script.getD i none) (script.length + 1) 0 = some (sendWithRetry script) :=
  retryLoop_go script 0 fun j => by simp

/-- A script whose first `k` answers are transient failures sends what answer
`k` says, after `k` retries. -/
theorem sendWithRetry_of_transients {script : List (Option IoError)} {k : Nat}
    (h : ∀ i < k, Transient (script.getD i none)) (hk : k ≤ script.length) :
    some (sendWithRetry script) = retryLoop (fun i => script.getD i none) (script.length + 1 - k) k := by
  rw [← retryLoop_getD, retryLoop_after_transients h (by omega)]

end SyslogRelay

namespace SyslogRelay.Net.UdpLink

variable (net : Network) (l : UdpLink)

/-- Past the end of a script every call succeeds, so a failure is always within it. -/
theorem lt_length_of_failure {script : List (Option IoError)} {i : Nat} {e : IoError}
    (he : script.getD i none = some e) : i < script.length := by
  rcases Nat.lt_or_ge i script.length with hi | hi
  · exact hi
  · simp [List.getD_eq_getElem?_getD, List.getElem?_eq_none hi] at he

theorem lt_length_of_transient {script : List (Option IoError)} {i : Nat}
    (h : Transient (script.getD i none)) : i < script.length := by
  obtain ⟨e, he, -⟩ := h
  exact lt_length_of_failure he

variable {k : Nat} (hopen : l.isOpen = true)
  (h : ∀ i < k, Transient ((net.attempts l.dest).getD i none))
include hopen h

/-- After `k` transient failures the network lets the datagram through: the
send succeeds and the link counts `k` more retries. -/
theorem send_after_transients (hk : (net.attempts l.dest).getD k none = none) :
    l.send net = ({ l with retries := l.retries + k }, .ok ()) := by
  have within : k ≤ (net.attempts l.dest).length :=
    Nat.le_of_not_lt fun beyond => Nat.lt_irrefl _ (lt_length_of_transient (h _ beyond))
  have sent := sendWithRetry_of_transients h within
  rw [show (net.attempts l.dest).length + 1 - k = (net.attempts l.dest).length - k + 1 by omega,
    retryLoop_success hk] at sent
  simp [send, hopen, Option.some_inj.mp sent]

/-- After `k` transient failures the network refuses the datagram for good:
the send fails with that error and the link is left as it was. -/
theorem send_after_transients_refused {e : IoError} (hk : (net.attempts l.dest).getD k none = some e)
    (he : classifyError e = .permanent) :
    l.send net = (l, .error (.send l.dest e)) := by
  have within : k < (net.attempts l.dest).length := lt_length_of_failure hk
  have sent := sendWithRetry_of_transients h (Nat.le_of_lt within)
  rw [show (net.attempts l.dest).length + 1 - k = (net.attempts l.dest).length - k + 1 by omega,
    retryLoop_permanent hk he] at sent
  simp [send, hopen, Option.some_inj.mp sent]

omit hopen h in
theorem send_closed_link (hclosed : l.isOpen = false) : l.send net = (l, .error .closed) := by
  simp [send, hclosed]

end SyslogRelay.Net.UdpLink

namespace SyslogRelay

open Net

/-- **Retries.** After `k` transient failures the loop ends at call `k + 1` on a
success or a permanent error; transient failures alone never end it. -/
theorem sendWithRetry_contract :
    (∀ (op : Nat → Option IoError) (k : Nat), (∀ i < k, Transient (op i)) →
      (op k = none → ∀ n, retryLoop op n 0 = if k < n then some ⟨k + 1, .ok k⟩ else none) ∧
      (∀ e, op k = some e → classifyError e = .permanent →
        ∀ n, retryLoop op n 0 = if k < n then some ⟨k + 1, .error e⟩ else none)) ∧
    (∀ op : Nat → Option IoError, (∀ i, Transient (op i)) → ∀ n, retryLoop op n 0 = none) ∧
    (∀ (net : Network) (l : UdpLink) (k : Nat), l.isOpen = true →
      (∀ i < k, Transient ((net.attempts l.dest).getD i none)) →
      ((net.attempts l.dest).getD k none = none →
          l.send net = ({ l with retries := l.retries + k }, .ok ())) ∧
        (∀ e, (net.attempts l.dest).getD k none = some e → classifyError e = .permanent →
          l.send net = (l, .error (.send l.dest e)))) ∧
    (∀ (net : Network) (l : UdpLink), l.isOpen = false → l.send net = (l, .error .closed)) := by
  refine ⟨fun op k h => ⟨fun hk n => ?_, fun e hk he n => ?_⟩, fun op h n => ?_,
    fun net l k hopen h => ⟨fun hk => UdpLink.send_after_transients net l hopen h hk,
      fun e hk he => UdpLink.send_after_transients_refused net l hopen h hk he⟩,
    fun net l hclosed => UdpLink.send_closed_link net l hclosed⟩
  · exact retryLoop_of_transients h (retryLoop_success hk) n
  · exact retryLoop_of_transients h (retryLoop_permanent hk he) n
  · exact retryLoop_none_of_transients (fun i _ => h i) (Nat.le_refl n)

/-- Two would-block failures and then a success: the loop returns two retries
at its third call. -/
theorem two_would_blocks_retried :
    (∀ i < 2, Transient ((fun i => if i < 2 then some (.simple .wouldBlock) else none : Nat → Option IoError) i)) ∧
      retryLoop (fun i => if i < 2 then some (.simple .wouldBlock) else none) 3 0 = some ⟨3, .ok 2⟩ := by
  have transients : ∀ i < 2,
      Transient ((fun i => if i < 2 then some (.simple .wouldBlock) else none : Nat → Option IoError) i) :=
    fun i hi => ⟨.simple .wouldBlock, by simp [hi], rfl⟩
  refine ⟨transients, ?_⟩
  have := (sendWithRetry_contract.1 _ 2 transients).1 (by simp) 3
  simpa using this

end SyslogRelay
