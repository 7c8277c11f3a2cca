import SyslogRelay.Dns.Message

namespace SyslogRelay.Dns

theorem ok_of_bind_eq_ok {ε α β : Type} {x : Except ε α} {f : α → Except ε β} {b : β}
    (h : x >>= f = .ok b) : ∃ a, x = .ok a ∧ f a = .ok b := by
  cases x with
  | error e => cases h
  | ok a => exact ⟨a, rfl, h⟩

theorem u16At_ok {msg : Bytes} {pos v pos' : Nat} (h : u16At msg pos = .ok (v, pos')) : pos' = pos + 2 := by
  unfold u16At at h
  split at h
  · cases h; rfl
  · cases h

theorem byteAt_ok {msg : Bytes} {pos pos' : Nat} {b : UInt8} (h : byteAt msg pos = .ok (b, pos')) :
    msg[pos]? = some b ∧ pos' = pos + 1 := by
  unfold byteAt at h
  split at h
  · cases h; exact ⟨‹_›, rfl⟩
  · cases h

/-- A message reads as a response exactly by the top bit of its third byte
(the QR bit of the header). -/
theorem Message.isResponse_of_decode? {bytes : List UInt8} {m : Message} (h : Message.decode? bytes = .ok m) :
    m.isResponse = decide (128 ≤ (bytes.getD 2 0).toNat) := by
  unfold Message.decode? at h
  obtain ⟨⟨_, p⟩, hid, h⟩ := ok_of_bind_eq_ok h
  obtain ⟨⟨flags, _⟩, hflags, h⟩ := ok_of_bind_eq_ok h
  have third : bytes.toArray[2]? = some flags := by
    have := (byteAt_ok hflags).1
    rwa [u16At_ok hid] at this
  dsimp only at h
  split at h
  · iterate 9 obtain ⟨_, -, h⟩ := ok_of_bind_eq_ok h
    split at h
    · obtain ⟨_, refused, -⟩ := ok_of_bind_eq_ok h
      cases refused
    · cases h
      simp only [List.getElem?_toArray] at third
      simp [List.getD_eq_getElem?_getD, third]
  · obtain ⟨_, refused, -⟩ := ok_of_bind_eq_ok h
    cases refused

/-- The labels of a name with their ASCII letters in lower case. -/
def Name.folded (n : Name) : List (List UInt8) := n.labels.map (·.map lowerByte)

theorem all_zip_iff_map_eq {α β : Type} [BEq β] [LawfulBEq β] (f : α → β) (xs ys : List α) :
    (xs.length = ys.length && (xs.zip ys).all fun p => f p.1 == f p.2) = true ↔ xs.map f = ys.map f := by
  induction xs generalizing ys with
  | nil => cases ys <;> simp
  | cons x xs ih =>
    cases ys with
    | nil => simp
    | cons y ys =>
      have rest := ih ys
      simp at rest ⊢
      rw [← rest]
      exact and_left_comm

/-- Names are the same exactly when they agree once ASCII case is folded. -/
theorem Name.sameAs_iff (n m : Name) : n.sameAs m = true ↔ n.folded = m.folded := by
  unfold Name.sameAs Name.folded
  exact all_zip_iff_map_eq (List.map lowerByte) n.labels m.labels

/-- What answer selection assumes of its DNS library: a message it reads is a
response by the QR bit of its header, and two names are the same when they
agree up to ASCII case. -/
structure Codec.Faithful (codec : Codec) : Prop where
  response : ∀ bytes m, codec.decode bytes = .ok m → m.isResponse = decide (128 ≤ (bytes.getD 2 0).toNat)
  sameName_iff : ∀ n m, codec.sameName n m = true ↔ n.folded = m.folded

theorem Codec.standard_faithful : Codec.standard.Faithful :=
  ⟨fun _ _ h => Message.isResponse_of_decode? h, Name.sameAs_iff⟩

/-- `ip` is the address of the first record of `records` of type A, named
`wanted` up to ASCII case, that carries an address. -/
def FirstAddress (wanted : Name) (records : List Record) (ip : Net.Ipv4) : Prop :=
  ∃ pre r post, records = pre ++ r :: post ∧
    r.type = typeA ∧ r.name.folded = wanted.folded ∧ r.address = some ip ∧
    ∀ q ∈ pre, q.type = typeA → q.name.folded = wanted.folded → q.address = none

theorem findSome?_filter {α β : Type} (p : α → Bool) (f : α → Option β) (l : List α) :
    (l.filter p).findSome? f = l.findSome? fun a => if p a then f a else none := by
  induction l with
  | nil => rfl
  | cons a l ih =>
    by_cases h : p a
    · simp [List.filter_cons_of_pos h, List.findSome?_cons, h, ih]
    · simp [List.filter_cons_of_neg h, h, ih]

theorem findSome?_records_iff {codec : Codec} (hc : codec.Faithful) (wanted : Name) (records : List Record)
    (ip : Net.Ipv4) :
    (records.filter fun r => r.type = typeA && codec.sameName r.name wanted).findSome? (·.address) = some ip ↔
      FirstAddress wanted records ip := by
  rw [findSome?_filter, List.findSome?_eq_some_iff]
  simp only [FirstAddress, Bool.and_eq_true, decide_eq_true_eq, hc.sameName_iff,
    Option.ite_none_right_eq_some, ite_eq_right_iff, and_imp, and_assoc]

/-- A datagram whose header marks it a query gives no address. -/
theorem findAddressWith_of_query {codec : Codec} (hc : codec.Faithful) {bytes : List UInt8} (host : String)
    (hq : (bytes.getD 2 0).toNat < 128) : findAddressWith codec bytes host = none := by
  unfold findAddressWith
  rcases hm : codec.decode bytes with f | m
  · rfl
  · have query : m.isResponse = false := by
      rw [hc.response bytes m hm]
      simpa using hq
    cases codec.readName (localText host) <;> simp [query]

/-- A built query has a header of flags zero, so its QR bit is clear. -/
theorem buildQueryWith_third {codec : Codec} {id : Nat} {host : String} {q : List UInt8}
    (h : buildQueryWith codec id host = .ok q) : q.getD 2 0 = 0 := by
  unfold buildQueryWith at h
  obtain ⟨_, -, h⟩ := ok_of_bind_eq_ok h
  split at h
  · obtain ⟨_, refused, -⟩ := ok_of_bind_eq_ok h
    cases refused
  · cases h
    rfl

theorem findAddressWith_eq_some_iff {codec : Codec} (hc : codec.Faithful) (bytes : List UInt8) (host : String)
    (ip : Net.Ipv4) :
    findAddressWith codec bytes host = some ip ↔
      ∃ m wanted, codec.decode bytes = .ok m ∧ m.isResponse = true ∧
        codec.readName (localText host) = .ok wanted ∧ FirstAddress wanted (m.answers ++ m.authority ++ m.additional) ip := by
  unfold findAddressWith
  rcases codec.decode bytes with f | m
  · simp
  · rcases codec.readName (localText host) with f | wanted
    · simp
    · cases hr : m.isResponse
      · simp [hr]
      · simp only [Bool.not_true, Bool.false_eq_true, if_false, findSome?_records_iff hc, Except.ok.injEq,
          exists_and_left, exists_eq_left', hr, true_and]

/-- The address a local-link answer gives, over a DNS library that meets
`Codec.Faithful`; the query built for the host gives none. -/
theorem findAddressWith_spec {codec : Codec} (hc : codec.Faithful) (bytes : List UInt8) (host : String)
    (ip : Net.Ipv4) :
    (findAddressWith codec bytes host = some ip ↔
      ∃ m wanted, codec.decode bytes = .ok m ∧ m.isResponse = true ∧
        codec.readName (localText host) = .ok wanted ∧
        FirstAddress wanted (m.answers ++ m.authority ++ m.additional) ip) ∧
    ∀ id q, buildQueryWith codec id host = .ok q → findAddressWith codec q host = none := by
  refine ⟨findAddressWith_eq_some_iff hc bytes host ip, fun id q built => findAddressWith_of_query hc host ?_⟩
  rw [buildQueryWith_third built]
  decide

/-- The library this one runs meets the assumptions, so the statement holds of
its reading of an answer for `loghost.local`. -/
theorem loghost_answer_read :
    let answer : List UInt8 :=
      [0, 0, 0x84, 0, 0, 0, 0, 1, 0, 0, 0, 0,
        7, 0x6c, 0x6f, 0x67, 0x68, 0x6f, 0x73, 0x74, 5, 0x6c, 0x6f, 0x63, 0x61, 0x6c, 0,
        0, 1, 0, 1, 0, 0, 0, 0x78, 0, 4, 1, 2, 3, 4]
    Codec.standard.Faithful ∧
      ((findAddressWith Codec.standard answer "loghost" = some ⟨1, 2, 3, 4⟩ ↔
        ∃ m wanted, Codec.standard.decode answer = .ok m ∧ m.isResponse = true ∧
          Codec.standard.readName (localText "loghost") = .ok wanted ∧
          FirstAddress wanted (m.answers ++ m.authority ++ m.additional) ⟨1, 2, 3, 4⟩) ∧
      ∀ id q, buildQueryWith Codec.standard id "loghost" = .ok q → findAddressWith Codec.standard q "loghost" = none) :=
  ⟨Codec.standard_faithful, findAddressWith_spec Codec.standard_faithful _ "loghost" ⟨1, 2, 3, 4⟩⟩

/-- An A record read with no data holds no address and is passed over. -/
example :
    findAddress [0, 0, 0x84, 0, 0, 0, 0, 2, 0, 0, 0, 0,
      7, 0x6c, 0x6f, 0x67, 0x68, 0x6f, 0x73, 0x74, 5, 0x6c, 0x6f, 0x63, 0x61, 0x6c, 0,
      0, 1, 0, 1, 0, 0, 0, 0x78, 0, 0,
      0xc0, 12, 0, 1, 0, 1, 0, 0, 0, 0x78, 0, 4, 1, 2, 3, 4] "loghost" = some ⟨1, 2, 3, 4⟩ := by
  decide +kernel

end SyslogRelay.Dns
