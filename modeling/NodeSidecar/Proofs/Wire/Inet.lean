import NodeSidecar.Proofs.Wire.Truncation
/-!
# Wire — texts and addresses that are not there

A text is written after its length, and a host after the length of its address, with
a port in four octets behind it. `NoText` and `NoInet` list the octets that do not
begin with one; everything else does (`noText_or`, `noInet_or`), and reading fails
just there.
-/

namespace NodeSidecar

open Text (Octets)
open Wire (put16)
open Wire.Read (Short Signed32)

/-- The octets of an address. -/
def Net.Host.octets : Net.Host → Octets
  | .v4 a b c d => [a, b, c, d]
  | .v6 a b c d e f g h => [a, b, c, d, e, f, g, h].flatMap fun group => put16 group.toNat

namespace Wire

/-- An address after its length, and a port in four octets. -/
def putInet (host : Net.Host) (port : Int) : Octets :=
  UInt8.ofNat host.octets.length :: (host.octets ++ putSigned port)

/-- No text stands in front: the octets end inside it, or they are not UTF-8. -/
inductive NoText : Octets → Prop
  | length {octets : Octets} (h : octets.length < 2) : NoText octets
  | cut {n : Nat} {after : Octets} (hn : n < 65536) (h : after.length < n) :
      NoText (put16 n ++ after)
  | garbled {raw : Octets} (hraw : raw.length < 65536) (h : ∀ cs, Text.encodeUtf8 cs ≠ raw)
      (rest : Octets) : NoText (put16 raw.length ++ (raw ++ rest))

/-- No host and port stand in front: the address has another length than four or
sixteen, the octets end too early, or the port does not fit sixteen bits. -/
inductive NoInet : Octets → Prop
  | nothing : NoInet []
  | hostLength {length : UInt8} (h4 : length ≠ 4) (h16 : length ≠ 16) (after : Octets) :
      NoInet (length :: after)
  | cut {length : UInt8} {after : Octets} (hlength : length = 4 ∨ length = 16)
      (h : after.length < length.toNat + 4) : NoInet (length :: after)
  | port {port : Int} (hport : Signed32 port) (h : ¬ (0 ≤ port ∧ port ≤ 65535))
      (host : Net.Host) (rest : Octets) : NoInet (putInet host port ++ rest)

namespace Read

variable {octets after rest : Octets} {host : Net.Host}

/-! ## Texts that are not there -/

/-- What no text is encoded in is not read as one. -/
theorem decodeUtf8_eq_error (h : ∀ cs, Text.encodeUtf8 cs ≠ octets) :
    ∃ flaw, Text.decodeUtf8 octets = .error flaw := by
  rcases hdecode : Text.decodeUtf8 octets with flaw | cs
  · exact ⟨flaw, rfl⟩
  · exact absurd (Text.decodeUtf8_eq_ok_iff.1 hdecode).symm (h cs)

theorem text_of_noText (h : NoText octets) : ∃ flaw, (text octets).1 = .error flaw := by
  cases h with
  | length h => exact ⟨_, andThen_of_error (congrArg Prod.fst (u16_of_short h))⟩
  | @cut n after hn h =>
    refine ⟨.truncated n after.length, ?_⟩
    rw [text, reads_u16.andThen_of_fits hn]
    exact andThen_of_error (congrArg Prod.fst (take_of_short h))
  | @garbled raw hraw h rest =>
    obtain ⟨flaw, hflaw⟩ := decodeUtf8_eq_error h
    have htake : take raw.length (raw ++ rest) = (.ok raw, rest) := take_eq_ok_iff.2 ⟨rfl, rfl⟩
    refine ⟨.text flaw, ?_⟩
    rw [text, reads_u16.andThen_of_fits hraw]
    refine (congrArg Prod.fst (andThen_of_ok htake)).trans ?_
    simp only [hflaw]
    rfl

/-- **A text stands in front, or there is none.** -/
theorem noText_or (octets : Octets) :
    NoText octets ∨ ∃ s rest, Short s ∧ octets = putText s ++ rest := by
  rcases octets with - | ⟨a, - | ⟨b, after⟩⟩
  · exact .inl (.length Nat.two_pos)
  · exact .inl (.length Nat.one_lt_two)
  have ha := a.toNat_lt
  have hb := b.toNat_lt
  obtain ⟨n, hn, hhead⟩ : ∃ n, n < 65536 ∧ a :: b :: after = put16 n ++ after :=
    ⟨a.toNat * 256 + b.toNat, by omega, by rw [put16_of_octets]; rfl⟩
  rw [hhead]
  rcases Nat.lt_or_ge after.length n with hshort | hlong
  · exact .inl (.cut hn hshort)
  obtain ⟨raw, rest, rfl, rfl⟩ : ∃ raw rest, after = raw ++ rest ∧ raw.length = n :=
    ⟨after.take n, after.drop n, (List.take_append_drop n after).symm,
      List.length_take_of_le hlong⟩
  by_cases hraw : ∃ cs, Text.encodeUtf8 cs = raw
  · obtain ⟨cs, rfl⟩ := hraw
    refine .inr ⟨String.ofList cs, rest, ?_, ?_⟩
    · simpa [Short] using hn
    · simp [putText]
  · exact .inl (.garbled hn (by simpa using hraw) rest)

/-! ## Addresses -/

/-- Two octets make the group that is written in them. -/
theorem pair_eq_iff {a b : UInt8} {group : UInt16} :
    pair a b = group ↔ [a, b] = put16 group.toNat := by
  have hpair : (pair a b).toNat = a.toNat * 256 + b.toNat := by
    have := a.toNat_lt
    have := b.toNat_lt
    simp [pair]
    omega
  constructor
  · rintro rfl
    rw [hpair, put16_of_octets]
  · intro h
    have hread : u16 [a, b] = (.ok group.toNat, []) :=
      (reads_u16 _ _ _).2 ⟨group.toNat, group.toNat_lt, rfl, by rw [h, List.append_nil]⟩
    rw [← UInt16.toNat_inj, hpair]
    exact Except.ok.inj (congrArg Prod.fst hread)

/-- **Octets stand for the host whose address they are.** -/
theorem host?_eq_some_iff : host? octets = some host ↔ octets = host.octets := by
  constructor
  · intro h
    unfold host? at h
    split at h
    · cases h
      rfl
    · cases h
      simp only [Net.Host.octets, List.flatMap_cons, List.flatMap_nil, ← pair_eq_iff.1 rfl,
        List.cons_append, List.nil_append]
    · cases h
  · rintro rfl
    cases host with
    | v4 a b c d => rfl
    | v6 a b c d e f g h =>
      have hgroup (group : UInt16) :
          pair (UInt8.ofNat (group.toNat / 256)) (UInt8.ofNat group.toNat) = group :=
        pair_eq_iff.2 rfl
      simp only [Net.Host.octets, List.flatMap_cons, List.flatMap_nil, put16, List.cons_append,
        List.nil_append, host?, hgroup]

theorem length_octets (host : Net.Host) : host.octets.length = 4 ∨ host.octets.length = 16 := by
  cases host with
  | v4 => exact .inl rfl
  | v6 => exact .inr rfl

theorem toNat_length_octets (host : Net.Host) :
    (UInt8.ofNat host.octets.length).toNat = host.octets.length := by
  rcases length_octets host with h | h
  · rw [h]
    rfl
  · rw [h]
    rfl

theorem exists_four {n : Nat} (h : octets.length = n + 4) :
    ∃ a b c d after, octets = a :: b :: c :: d :: after ∧ after.length = n := by
  obtain ⟨a, octets, rfl⟩ := List.exists_cons_of_length_eq_add_one h
  obtain ⟨b, octets, rfl⟩ := List.exists_cons_of_length_eq_add_one (Nat.succ.inj h)
  obtain ⟨c, octets, rfl⟩ := List.exists_cons_of_length_eq_add_one (Nat.succ.inj (Nat.succ.inj h))
  obtain ⟨d, after, rfl⟩ :=
    List.exists_cons_of_length_eq_add_one (Nat.succ.inj (Nat.succ.inj (Nat.succ.inj h)))
  exact ⟨a, b, c, d, after, rfl, by simpa using h⟩

/-- Four octets are the address of a host, and so are sixteen. -/
theorem exists_octets (h : octets.length = 4 ∨ octets.length = 16) :
    ∃ host : Net.Host, octets = host.octets := by
  have hsome : ∃ host, host? octets = some host := by
    rcases h with h | h
    · obtain ⟨a, b, c, d, after, rfl, hafter⟩ := exists_four (n := 0) h
      obtain rfl := List.length_eq_zero_iff.1 hafter
      exact ⟨_, rfl⟩
    · obtain ⟨a, a', b, b', after₁, rfl, h₁⟩ := exists_four (n := 12) h
      obtain ⟨c, c', d, d', after₂, rfl, h₂⟩ := exists_four (n := 8) h₁
      obtain ⟨e, e', f, f', after₃, rfl, h₃⟩ := exists_four (n := 4) h₂
      obtain ⟨g, g', i, i', after₄, rfl, h₄⟩ := exists_four (n := 0) h₃
      obtain rfl := List.length_eq_zero_iff.1 h₄
      exact ⟨_, rfl⟩
  exact hsome.imp fun _ => host?_eq_some_iff.1

/-- An address stands behind its length, if there are octets enough. -/
theorem exists_address {length : UInt8} (hlength : length = 4 ∨ length = 16)
    (hlong : length.toNat ≤ after.length) : ∃ host : Net.Host, ∃ rest,
      length :: after = UInt8.ofNat host.octets.length :: (host.octets ++ rest) ∧
      after.length = length.toNat + rest.length := by
  have haddress : (after.take length.toNat).length = length.toNat :=
    List.length_take_of_le hlong
  obtain ⟨host, hhost⟩ : ∃ host : Net.Host, after.take length.toNat = host.octets := by
    apply exists_octets
    rw [haddress]
    rcases hlength with rfl | rfl
    · exact .inl rfl
    · exact .inr rfl
  refine ⟨host, after.drop length.toNat, ?_, ?_⟩
  · rw [← hhost, haddress, UInt8.ofNat_toNat, List.take_append_drop]
  · rw [List.length_drop]
    omega

theorem host_eq_ok_iff {length : Nat} : Read.host length octets = (.ok host, rest) ↔
    host.octets.length = length ∧ octets = host.octets ++ rest := by
  constructor
  · intro h
    unfold Read.host at h
    split at h
    · rename_i address left htake
      split at h
      · rename_i found hfound
        cases h
        obtain rfl := host?_eq_some_iff.1 hfound
        exact take_eq_ok_iff.1 htake
      · cases h
    · cases h
  · rintro ⟨hlength, rfl⟩
    rw [Read.host, take_eq_ok_iff.2 ⟨hlength, rfl⟩]
    simp only [host?_eq_some_iff.2 rfl]

/-- A host is read from the octets of its address, and from nothing else. -/
theorem host_of_length {length : Nat} (h4 : length ≠ 4) (h16 : length ≠ 16) (octets : Octets) :
    ∃ flaw, (Read.host length octets).1 = .error flaw := by
  rcases hread : Read.host length octets with ⟨flaw | host, rest⟩
  · exact ⟨flaw, rfl⟩
  · obtain ⟨hlength, -⟩ := host_eq_ok_iff.1 hread
    rcases length_octets host with h | h
    · exact absurd (hlength.symm.trans h) h4
    · exact absurd (hlength.symm.trans h) h16

/-! ## Hosts and ports -/

/-- The address, once its length was read. -/
theorem endpoint_putInet (host : Net.Host) {port : Int} (hport : Signed32 port) (rest : Octets) :
    endpoint (putInet host port ++ rest) =
      if 0 ≤ port ∧ port ≤ 65535 then (.ok (.on host port.toNat.toUInt16), rest)
      else (.error (.port port), rest) := by
  have hhost : Read.host (UInt8.ofNat host.octets.length).toNat
      (host.octets ++ (putSigned port ++ rest)) = (.ok host, putSigned port ++ rest) :=
    host_eq_ok_iff.2 ⟨(toNat_length_octets host).symm, rfl⟩
  rw [endpoint, putInet, List.cons_append, u8_andThen, List.append_assoc, andThen_of_ok hhost,
    i32_andThen hport]
  split
  · rfl
  · rfl

/-- Four octets are a number with a sign. -/
theorem exists_putSigned (h : 4 ≤ octets.length) :
    ∃ n rest, Signed32 n ∧ octets = putSigned n ++ rest := by
  have hlength : octets.length = (octets.length - 4) + 4 := by omega
  obtain ⟨a, b, c, d, rest, rfl, -⟩ := exists_four hlength
  obtain ⟨n, hn, -, hoctets⟩ := (reads_i32 (a :: b :: c :: d :: rest) _ rest).1 rfl
  exact ⟨n, rest, hn, hoctets⟩

/-- **A host and a port stand in front, or there are none.** -/
theorem noInet_or (octets : Octets) : NoInet octets ∨
    ∃ host port rest, (0 ≤ port ∧ port ≤ 65535) ∧ octets = putInet host port ++ rest := by
  rcases octets with - | ⟨length, after⟩
  · exact .inl .nothing
  by_cases hlength : length = 4 ∨ length = 16
  · rcases Nat.lt_or_ge after.length (length.toNat + 4) with hshort | hlong
    · exact .inl (.cut hlength hshort)
    have haddress : length.toNat ≤ after.length := by omega
    obtain ⟨host, behind, hoctets, hbehind⟩ := exists_address hlength haddress
    have hfour : 4 ≤ behind.length := by omega
    obtain ⟨port, rest, hport, rfl⟩ := exists_putSigned hfour
    have hinet : UInt8.ofNat host.octets.length :: (host.octets ++ (putSigned port ++ rest)) =
        putInet host port ++ rest := by
      rw [putInet, List.cons_append, List.append_assoc]
    rw [hoctets, hinet]
    by_cases hfits : 0 ≤ port ∧ port ≤ 65535
    · exact .inr ⟨host, port, rest, hfits, rfl⟩
    · exact .inl (.port hport hfits host rest)
  · obtain ⟨h4, h16⟩ := not_or.1 hlength
    exact .inl (.hostLength h4 h16 after)

theorem endpoint_of_noInet (h : NoInet octets) : ∃ flaw, (endpoint octets).1 = .error flaw := by
  cases h with
  | nothing => exact ⟨_, rfl⟩
  | @hostLength length h4 h16 after =>
    rw [Ne, ← UInt8.toNat_inj] at h4 h16
    obtain ⟨flaw, hflaw⟩ := host_of_length h4 h16 after
    rw [endpoint, u8_andThen]
    exact ⟨flaw, andThen_of_error hflaw⟩
  | @cut length after hlength h =>
    rw [endpoint, u8_andThen]
    rcases hread : Read.host length.toNat after with ⟨flaw | host, rest⟩
    · exact ⟨flaw, andThen_of_error (congrArg Prod.fst hread)⟩
    · obtain ⟨hhost, rfl⟩ := host_eq_ok_iff.1 hread
      have hshort : rest.length < 4 := by
        rw [List.length_append] at h
        omega
      exact ⟨.truncated 4 rest.length, (congrArg Prod.fst (andThen_of_ok hread)).trans
        (andThen_of_error (congrArg Prod.fst (i32_of_short hshort)))⟩
  | port hport h host rest =>
    rw [endpoint_putInet host hport, if_neg h]
    exact ⟨_, rfl⟩

end Read

end Wire

end NodeSidecar
