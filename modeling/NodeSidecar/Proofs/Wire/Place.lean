import NodeSidecar.Proofs.Wire.Inet
/-!
# Wire — the place of a reader

Reads are made one after the other, each where the one before it stopped, also
after a flaw. `Kind.Asks` lists where a read can find too few octets: what it has
taken by then, and how many it asks for at once. `Course` says everything that a
read can come to, with the octets it takes and those it leaves
(`read_eq_iff`). From it a reader never loses its place:
`reads_keep_their_place`.
-/

namespace NodeSidecar.Wire

open Text (Octets)
open Read (Short Signed32)

/-- What a body can be read as, one thing at a time. -/
inductive Kind where
  | u8 | u16 | i32 | text | octets | endpoint
  deriving DecidableEq, Repr

/-- A thing that was read. -/
inductive Item where
  | u8 (n : UInt8)
  | u16 (n : Nat)
  | i32 (n : Int)
  | text (s : String)
  | octets (o : Option Octets)
  | endpoint (e : Net.Endpoint)
  deriving DecidableEq, Repr

namespace Kind

/-- The read of a thing of this kind. -/
def read : Kind → Read Item
  | .u8 => Read.u8 >>= fun n => Read.done (.u8 n)
  | .u16 => Read.u16 >>= fun n => Read.done (.u16 n)
  | .i32 => Read.i32 >>= fun n => Read.done (.i32 n)
  | .text => Read.text >>= fun s => Read.done (.text s)
  | .octets => Read.octets >>= fun o => Read.done (.octets o)
  | .endpoint => Read.endpoint >>= fun e => Read.done (.endpoint e)

/-- Once it has taken `front`, a read asks for so many octets at once: those of the
field it is at, or of the length in front of them. What it has taken of that field
is its length at most; the port stands behind an address that is whole. -/
inductive Asks : Kind → (front : Octets) → (need : Nat) → Prop
  | u8 : Asks .u8 [] 1
  | u16 : Asks .u16 [] 2
  | i32 : Asks .i32 [] 4
  | textLength : Asks .text [] 2
  | text {n : Nat} (hn : n < 65536) : Asks .text (put16 n) n
  | octetsLength : Asks .octets [] 4
  | octets {n : Nat} (hn : n < 2147483648) : Asks .octets (putSigned n) n
  | hostLength : Asks .endpoint [] 1
  | host (length : UInt8) : Asks .endpoint [length] length.toNat
  | port (host : Net.Host) :
      Asks .endpoint (UInt8.ofNat host.octets.length :: host.octets) 4

/-- The octets end too early: the read takes `front` and asks for `need` more, but
`rest` is all there is. -/
structure Lacks (k : Kind) (octets front : Octets) (need : Nat) (rest : Octets) : Prop where
  asks : k.Asks front need
  split : octets = front ++ rest
  short : rest.length < need

end Kind

/-- **What a read comes to**: the octets that it takes, those that it leaves, and its
answer. -/
inductive Course : Kind → (used rest : Octets) → Except Flaw Item → Prop
  /-- The octets end too early. -/
  | short {k : Kind} {front rest : Octets} {need : Nat} (h : k.Asks front need)
      (hshort : rest.length < need) : Course k front rest (.error (.truncated need rest.length))
  | u8 (n : UInt8) (rest : Octets) : Course .u8 [n] rest (.ok (.u8 n))
  | u16 {n : Nat} (hn : n < 65536) (rest : Octets) : Course .u16 (put16 n) rest (.ok (.u16 n))
  | i32 {n : Int} (hn : Signed32 n) (rest : Octets) :
      Course .i32 (putSigned n) rest (.ok (.i32 n))
  | text {s : String} (hs : Short s) (rest : Octets) :
      Course .text (putText s) rest (.ok (.text s))
  /-- The octets of a text are not UTF-8; they are taken all the same. -/
  | garbled {raw : Octets} {flaw : Text.Utf8Flaw} (hraw : raw.length < 65536)
      (hflaw : Text.decodeUtf8 raw = .error flaw) (rest : Octets) :
      Course .text (put16 raw.length ++ raw) rest (.error (.text flaw))
  | octets {c : Cell} (hc : c.Fits) (rest : Octets) :
      Course .octets c.encode rest (.ok (.octets c.value))
  /-- There are octets enough for an address, but not four or sixteen; only their
  length is taken. -/
  | hostLength {length : UInt8} (h4 : length ≠ 4) (h16 : length ≠ 16) {rest : Octets}
      (hlong : length.toNat ≤ rest.length) :
      Course .endpoint [length] rest (.error (.hostLength length.toNat))
  | endpoint (host : Net.Host) {port : Int} (hport : 0 ≤ port ∧ port ≤ 65535) (rest : Octets) :
      Course .endpoint (putInet host port) rest (.ok (.endpoint (.on host port.toNat.toUInt16)))
  /-- The port does not fit sixteen bits; it is taken all the same. -/
  | port (host : Net.Host) {port : Int} (hport : Signed32 port)
      (hbad : ¬ (0 ≤ port ∧ port ≤ 65535)) (rest : Octets) :
      Course .endpoint (putInet host port) rest (.error (.port port))

/-! ## One read -/

section OneRead

variable {k : Kind} {octets front used rest : Octets} {need : Nat} {answer : Except Flaw Item}

/-- A text of which octets are missing behind its length. -/
theorem Read.text_of_short {n : Nat} (hn : n < 65536) (h : rest.length < n) :
    Read.text (put16 n ++ rest) = (.error (.truncated n rest.length), rest) := by
  rw [Read.text, Read.reads_u16.andThen_of_fits hn]
  exact Read.andThen_of_flaw (Read.take_of_short h)

theorem Read.text_of_garbled {flaw : Text.Utf8Flaw} (hused : used.length < 65536)
    (hflaw : Text.decodeUtf8 used = .error flaw) (rest : Octets) :
    Read.text (put16 used.length ++ (used ++ rest)) = (.error (.text flaw), rest) := by
  have htake : Read.take used.length (used ++ rest) = (.ok used, rest) :=
    Read.take_eq_ok_iff.2 ⟨rfl, rfl⟩
  rw [Read.text, Read.reads_u16.andThen_of_fits hused]
  refine (Read.andThen_of_ok htake).trans ?_
  simp only [hflaw]
  rfl

theorem Read.octets_of_short {n : Nat} (hn : n < 2147483648) (h : rest.length < n) :
    Read.octets (putSigned n ++ rest) = (.error (.truncated n rest.length), rest) := by
  rw [Read.octets, Read.i32_andThen ⟨by omega, by omega⟩, if_neg (by omega), Int.toNat_natCast]
  exact Read.andThen_of_flaw (Read.take_of_short h)

theorem Read.host_of_short {n : Nat} (h : rest.length < n) :
    Read.host n rest = (.error (.truncated n rest.length), rest) := by
  rw [Read.host, Read.take_of_short h]

/-- Of an address of another length than four or sixteen nothing is taken. -/
theorem Read.host_of_hostLength {n : Nat} (h4 : n ≠ 4) (h16 : n ≠ 16) (h : n ≤ rest.length) :
    Read.host n rest = (.error (.hostLength n), rest) := by
  have htake : Read.take n rest = (.ok (rest.take n), rest.drop n) :=
    Read.take_eq_ok_iff.2 ⟨List.length_take_of_le h, (List.take_append_drop n rest).symm⟩
  have hnone : Read.host? (rest.take n) = none := by
    rw [Option.eq_none_iff_forall_not_mem]
    intro host hhost
    have haddress := congrArg List.length (Read.host?_eq_some_iff.1 hhost)
    rw [List.length_take_of_le h] at haddress
    rcases Read.length_octets host with hfour | hsixteen
    · exact h4 (haddress.trans hfour)
    · exact h16 (haddress.trans hsixteen)
  rw [Read.host, htake]
  simp only [hnone]

/-- The address is taken when the port is cut off. -/
theorem Read.endpoint_of_short (host : Net.Host) (h : rest.length < 4) :
    Read.endpoint (UInt8.ofNat host.octets.length :: (host.octets ++ rest)) =
      (.error (.truncated 4 rest.length), rest) := by
  rw [Read.endpoint, Read.u8_andThen, Read.toNat_length_octets,
    Read.andThen_of_ok (Read.host_eq_ok_iff.2 ⟨rfl, rfl⟩)]
  exact Read.andThen_of_flaw (Read.i32_of_short h)

/-- A read that asks for more octets than there are says so, and leaves them. -/
theorem Kind.Asks.read (h : k.Asks front need) (hshort : rest.length < need) :
    k.read (front ++ rest) = (.error (.truncated need rest.length), rest) := by
  cases h with
  | u8 =>
    obtain rfl := List.length_eq_zero_iff.1 (Nat.lt_one_iff.1 hshort)
    rfl
  | u16 => exact Read.andThen_of_flaw (Read.u16_of_short hshort)
  | i32 => exact Read.andThen_of_flaw (Read.i32_of_short hshort)
  | textLength => exact Read.andThen_of_flaw (Read.andThen_of_flaw (Read.u16_of_short hshort))
  | text hn => exact Read.andThen_of_flaw (Read.text_of_short hn hshort)
  | octetsLength => exact Read.andThen_of_flaw (Read.andThen_of_flaw (Read.i32_of_short hshort))
  | octets hn => exact Read.andThen_of_flaw (Read.octets_of_short hn hshort)
  | hostLength =>
    obtain rfl := List.length_eq_zero_iff.1 (Nat.lt_one_iff.1 hshort)
    rfl
  | host length =>
    refine Read.andThen_of_flaw ?_
    rw [List.singleton_append, Read.endpoint, Read.u8_andThen]
    exact Read.andThen_of_flaw (Read.host_of_short hshort)
  | port host => exact Read.andThen_of_flaw (Read.endpoint_of_short host hshort)

/-- A read comes to what its course says. -/
theorem Course.read (h : Course k used rest answer) : k.read (used ++ rest) = (answer, rest) := by
  cases h with
  | short h hshort => exact h.read hshort
  | u8 n => rfl
  | u16 hn => exact Read.reads_u16.andThen_of_fits hn rest
  | i32 hn => exact Read.i32_andThen hn rest
  | text hs => exact Read.text_andThen hs rest
  | garbled hraw hflaw =>
    rw [List.append_assoc]
    exact Read.andThen_of_flaw (Read.text_of_garbled hraw hflaw rest)
  | octets hc => exact reads_cell.andThen_of_fits hc rest
  | hostLength h4 h16 hlong =>
    rw [Ne, ← UInt8.toNat_inj] at h4 h16
    refine Read.andThen_of_flaw ?_
    rw [List.singleton_append, Read.endpoint, Read.u8_andThen]
    exact Read.andThen_of_flaw (Read.host_of_hostLength h4 h16 hlong)
  | @endpoint host port hport =>
    have hsigned : Signed32 port := ⟨by omega, by omega⟩
    have hread := Read.endpoint_putInet host hsigned rest
    rw [if_pos hport] at hread
    exact Read.andThen_of_ok hread
  | port host hport hbad =>
    have hread := Read.endpoint_putInet host hport rest
    rw [if_neg hbad] at hread
    exact Read.andThen_of_flaw hread

/-- Octets end inside the number that is read first, or a number stands in front. -/
theorem exists_number (octets : Octets) : octets.length < 4 ∨
    ∃ n rest, Signed32 n ∧ octets = putSigned n ++ rest :=
  (Nat.lt_or_ge octets.length 4).imp id Read.exists_putSigned

theorem exists_course_text (octets : Octets) :
    ∃ used rest answer, octets = used ++ rest ∧ Course .text used rest answer := by
  rcases Read.noText_or octets with hnone | ⟨s, rest, hs, rfl⟩
  · cases hnone with
    | length h => exact ⟨[], octets, _, rfl, .short .textLength h⟩
    | @cut n after hn h => exact ⟨put16 n, after, _, rfl, .short (.text hn) h⟩
    | @garbled raw hraw h rest =>
      obtain ⟨flaw, hflaw⟩ := Read.decodeUtf8_eq_error h
      exact ⟨put16 raw.length ++ raw, rest, _, (List.append_assoc _ _ _).symm,
        .garbled hraw hflaw rest⟩
  · exact ⟨putText s, rest, _, rfl, .text hs rest⟩

theorem exists_course_octets (octets : Octets) :
    ∃ used rest answer, octets = used ++ rest ∧ Course .octets used rest answer := by
  rcases exists_number octets with hshort | ⟨n, after, ⟨hlow, hhigh⟩, rfl⟩
  · exact ⟨[], octets, _, rfl, .short .octetsLength hshort⟩
  by_cases hneg : n < 0
  · have hnull : (Cell.null n).Fits := ⟨hlow, hneg⟩
    exact ⟨putSigned n, after, _, rfl, .octets hnull after⟩
  obtain ⟨n, rfl⟩ := Int.eq_ofNat_of_zero_le (Int.not_lt.1 hneg)
  have hn : n < 2147483648 := by omega
  rcases Nat.lt_or_ge after.length n with hshort | hlong
  · exact ⟨putSigned n, after, _, rfl, .short (.octets hn) hshort⟩
  · have hlength : (after.take n).length = n := List.length_take_of_le hlong
    have hcell : (Cell.octets (after.take n)).Fits := by
      rw [Cell.Fits, hlength]
      exact hn
    refine ⟨(Cell.octets (after.take n)).encode, after.drop n, _, ?_, .octets hcell _⟩
    rw [Cell.encode, hlength, List.append_assoc, List.take_append_drop]

/-- Where an address and a port are not, the octets end too early, or the address has
another length, or the port does not fit. -/
theorem exists_course_endpoint (octets : Octets) :
    ∃ used rest answer, octets = used ++ rest ∧ Course .endpoint used rest answer := by
  rcases Read.noInet_or octets with hnone | ⟨host, port, rest, hport, rfl⟩
  · cases hnone with
    | nothing => exact ⟨[], [], _, rfl, .short .hostLength Nat.one_pos⟩
    | @hostLength length h4 h16 after =>
      refine ⟨[length], after, ?_⟩
      rcases Nat.lt_or_ge after.length length.toNat with hshort | hlong
      · exact ⟨_, rfl, .short (.host length) hshort⟩
      · exact ⟨_, rfl, .hostLength h4 h16 hlong⟩
    | @cut length after hlength h =>
      -- The octets end in the address, or in the port behind it.
      rcases Nat.lt_or_ge after.length length.toNat with hshort | hlong
      · exact ⟨[length], after, _, rfl, .short (.host length) hshort⟩
      obtain ⟨host, rest, hoctets, hlength⟩ := Read.exists_address hlength hlong
      have hport : rest.length < 4 := by omega
      exact ⟨UInt8.ofNat host.octets.length :: host.octets, rest, _, hoctets,
        .short (.port host) hport⟩
    | port hport h host rest => exact ⟨putInet host _, rest, _, rfl, .port host hport h rest⟩
  · exact ⟨putInet host port, rest, _, rfl, .endpoint host hport rest⟩

/-- **Every read comes to something**, wherever it is made. -/
theorem exists_course (k : Kind) (octets : Octets) :
    ∃ used rest answer, octets = used ++ rest ∧ Course k used rest answer := by
  cases k with
  | u8 =>
    rcases octets with - | ⟨n, rest⟩
    · exact ⟨[], [], _, rfl, .short .u8 Nat.one_pos⟩
    · exact ⟨[n], rest, _, rfl, .u8 n rest⟩
  | u16 =>
    rcases octets with - | ⟨a, - | ⟨b, rest⟩⟩
    · exact ⟨[], [], _, rfl, .short .u16 Nat.two_pos⟩
    · exact ⟨[], [a], _, rfl, .short .u16 Nat.one_lt_two⟩
    · have ha := a.toNat_lt
      have hb := b.toNat_lt
      refine ⟨put16 (a.toNat * 256 + b.toNat), rest, _, ?_, .u16 (by omega) rest⟩
      rw [Read.put16_of_octets]
      rfl
  | i32 =>
    rcases exists_number octets with hshort | ⟨n, rest, hn, rfl⟩
    · exact ⟨[], octets, _, rfl, .short .i32 hshort⟩
    · exact ⟨putSigned n, rest, _, rfl, .i32 hn rest⟩
  | text => exact exists_course_text octets
  | octets => exact exists_course_octets octets
  | endpoint => exact exists_course_endpoint octets

/-- **A read answers and leaves just what a course says.** -/
theorem read_eq_iff : k.read octets = (answer, rest) ↔
    ∃ used, octets = used ++ rest ∧ Course k used rest answer := by
  constructor
  · intro hread
    obtain ⟨used, rest', answer', rfl, hcourse⟩ := exists_course k octets
    rw [hcourse.read] at hread
    cases hread
    exact ⟨used, rfl, hcourse⟩
  · rintro ⟨used, rfl, hcourse⟩
    exact hcourse.read

/-- Octets are missing just when the read asks for more than there are; those are
left. -/
theorem read_eq_truncated_iff {left : Nat} :
    k.read octets = (.error (.truncated need left), rest) ↔
      (∃ front, k.Lacks octets front need rest) ∧ left = rest.length := by
  rw [read_eq_iff]
  constructor
  · rintro ⟨front, hsplit, hcourse⟩
    cases hcourse with
    | short hasks hshort => exact ⟨⟨front, hasks, hsplit, hshort⟩, rfl⟩
  · rintro ⟨⟨front, hasks, hsplit, hshort⟩, rfl⟩
    exact ⟨front, hsplit, .short hasks hshort⟩

end OneRead

/-! ## Many reads -/

/-- What reads leave that are made one after the other, whatever each answers. -/
def left (kinds : List Kind) (body : Octets) : Octets :=
  kinds.foldl (fun octets k => (k.read octets).2) body

/-- A read keeps its place: it takes a piece from where it stands, and the next read
stands behind that. -/
structure KeepsPlace (k : Kind) (here piece there : Octets) : Prop where
  /-- The piece is the front of what there is. -/
  adjoins : here = piece ++ there
  /-- The piece is what the answer was read from. -/
  course : Course k piece there (k.read here).1
  /-- Octets are said to be missing just where the read asks for more than there are. -/
  truncated_iff : (∃ need left, (k.read here).1 = .error (.truncated need left)) ↔
    ∃ front need rest, k.Lacks here front need rest
  /-- Then nothing is taken of what was asked for: gone is only what the read had taken
  before. -/
  untaken : ∀ front need rest, k.Lacks here front need rest →
    (k.read here).1 = .error (.truncated need rest.length) ∧ piece = front ∧ there = rest

theorem exists_keepsPlace (k : Kind) (here : Octets) :
    ∃ piece, KeepsPlace k here piece (k.read here).2 := by
  obtain ⟨piece, hadjoins, hcourse⟩ := read_eq_iff.1 (Prod.eta (k.read here)).symm
  refine ⟨piece, hadjoins, hcourse, ⟨?_, ?_⟩, fun front need rest hlacks => ?_⟩
  · rintro ⟨need, left, herror⟩
    obtain ⟨⟨front, hlacks⟩, -⟩ := read_eq_truncated_iff.1 (Prod.ext herror rfl)
    exact ⟨front, need, _, hlacks⟩
  · rintro ⟨front, need, rest, hlacks⟩
    exact ⟨need, rest.length,
      congrArg Prod.fst (read_eq_truncated_iff.2 ⟨⟨front, hlacks⟩, rfl⟩)⟩
  · have hread := read_eq_truncated_iff.2 ⟨⟨front, hlacks⟩, rfl⟩
    have hthere : (k.read here).2 = rest := congrArg Prod.snd hread
    refine ⟨congrArg Prod.fst hread, ?_, hthere⟩
    rw [hthere, hlacks.split] at hadjoins
    exact (List.append_cancel_right hadjoins).symm

/-- **A reader never loses its place.** Whatever is read from a body, and whatever
comes of it, each read takes the piece of the body behind the pieces of those before
it; pieces and what is left are the whole body at any time; and octets are said to be
missing just where a read asks for more than there are, which it leaves. -/
theorem reads_keep_their_place (body : Octets) (kinds : List Kind) :
    ∃ pieces : List Octets, pieces.length = kinds.length ∧
      (∀ n, (pieces.take n).flatten ++ left (kinds.take n) body = body ∧
        (pieces.take n).flatten.length + (left (kinds.take n) body).length = body.length) ∧
      ∀ n k, kinds[n]? = some k → ∃ piece, pieces[n]? = some piece ∧
        KeepsPlace k (left (kinds.take n) body) piece (left (kinds.take (n + 1)) body) := by
  suffices h : ∃ pieces : List Octets, pieces.length = kinds.length ∧
      (∀ n, (pieces.take n).flatten ++ left (kinds.take n) body = body) ∧
      ∀ n k, kinds[n]? = some k → ∃ piece, pieces[n]? = some piece ∧
        KeepsPlace k (left (kinds.take n) body) piece (left (kinds.take (n + 1)) body) by
    obtain ⟨pieces, hlength, hwhole, hplace⟩ := h
    refine ⟨pieces, hlength, fun n => ⟨hwhole n, ?_⟩, hplace⟩
    rw [← List.length_append, hwhole]
  -- The body is general, since the other reads start at what the first one leaves.
  induction kinds generalizing body with
  | nil => exact ⟨[], rfl, fun n => by simp [left], by simp⟩
  | cons k kinds ih =>
    obtain ⟨piece, hpiece⟩ := exists_keepsPlace k body
    obtain ⟨pieces, hlength, hwhole, hplace⟩ := ih (k.read body).2
    refine ⟨piece :: pieces, congrArg Nat.succ hlength, fun n => ?_, fun n k' hk' => ?_⟩
    · cases n with
      | zero => rfl
      | succ n =>
        rw [List.take_succ_cons, List.take_succ_cons, List.flatten_cons, List.append_assoc]
        exact (congrArg (piece ++ ·) (hwhole n)).trans hpiece.adjoins.symm
    · cases n with
      | zero =>
        obtain rfl : k = k' := Option.some.inj hk'
        exact ⟨piece, rfl, hpiece⟩
      | succ n => exact hplace n k' hk'

/-- A port is cut off, and the two octets of it that are there are read again: as a
number they are too few, as the length of a text they are enough. And of the longest
octets there can be all but one are missing. -/
theorem place_kept_after_cut_port :
    Kind.endpoint.read [4, 10, 0, 0, 5, 0, 0] = (.error (.truncated 4 2), [0, 0]) ∧
    Kind.i32.read [0, 0] = (.error (.truncated 4 2), [0, 0]) ∧
    Kind.text.read [0, 0] = (.ok (.text ""), []) ∧
    (∃ piece, KeepsPlace .text [0, 0] piece []) ∧
    Kind.octets.read [127, 255, 255, 255, 9] = (.error (.truncated 2147483647 1), [9]) := by
  have hread : left [.endpoint, .i32] [4, 10, 0, 0, 5, 0, 0] = [0, 0] ∧
      left [.endpoint, .i32, .text] [4, 10, 0, 0, 5, 0, 0] = [] := by decide +kernel
  obtain ⟨pieces, -, -, hplace⟩ :=
    reads_keep_their_place [4, 10, 0, 0, 5, 0, 0] [.endpoint, .i32, .text]
  obtain ⟨piece, -, hkept⟩ := hplace 2 .text rfl
  refine ⟨by decide +kernel, by decide +kernel, by decide +kernel, ⟨piece, ?_⟩,
    by decide +kernel⟩
  rw [← hread.1, ← hread.2]
  exact hkept

end NodeSidecar.Wire
