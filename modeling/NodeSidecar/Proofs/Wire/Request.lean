import NodeSidecar.Proofs.Wire.ResultSet
/-!
# Wire — requests read back

What is sent can be read: `requests_read_back`. The header of a request says what
follows it (`decode_request`), the body of a query holds its text, and the body of
a subscription holds its names as long as they have room where their number and
their lengths are written; of a longer number or length only the low bits are
there, and the body is read as something else.
-/

namespace NodeSidecar.Wire

open Text (Octets encodeUtf8)
open Read (Reads Short Signed32)

variable {stream : Int} {opcode : Opcode} {body octets rest : Octets}

/-- A number with a sign of sixteen bits. -/
def Signed16 (n : Int) : Prop :=
  -32768 ≤ n ∧ n < 32768

instance (n : Int) : Decidable (Signed16 n) :=
  inferInstanceAs (Decidable (_ ∧ _))

/-- Reads the body of a query: its text in octets, its consistency and its
flags. -/
def readQuery : Read (Option Octets × Nat × UInt8) := do
  let cql ← Read.octets
  let consistency ← Read.u16
  let flags ← Read.u8
  Read.done (cql, consistency, flags)

/-- Reads the body of a subscription: the names of kinds of events, after their
number. -/
def readNames : Read (List String) := do
  let count ← Read.u16
  Read.gather count Read.text

/-! ## Headers -/

theorem ofCode?_code (opcode : Opcode) : Opcode.ofCode? opcode.code = some opcode := by
  cases opcode <;> rfl

theorem signed16_toNat (h : Signed16 stream) :
    Read.signed 16 (stream % 65536).toNat = stream := by
  have hhalf : Nat.pow 2 15 = 32768 := rfl
  have hwhole : ((Nat.pow 2 16 : Nat) : Int) = 65536 := rfl
  obtain ⟨hlow, hhigh⟩ := h
  simp only [Read.signed, Nat.add_one_sub_one, hhalf, hwhole]
  split <;> omega

/-- A length that has room is written as the number it is. -/
theorem put32_eq_putSigned {n : Nat} (h : n < 4294967296) : put32 n = putSigned n := by
  have hn : ((n : Int) % 4294967296).toNat = n := by omega
  rw [putSigned, hn]

/-- **The header of a request says what follows it.** -/
theorem decode_request (hstream : Signed16 stream) (hbody : body.length ≤ bodyLimit) :
    Header.decode ((request stream opcode body).take headerLength) =
        .ok ⟨protocolVersion, 0, stream, opcode, body.length⟩ ∧
      (request stream opcode body).drop headerLength = body := by
  have hlimit : bodyLimit = 268435456 := rfl
  -- The nine octets in front, cut into what is read one after the other.
  have hsplit : request stream opcode body = ([protocolVersion, 0] ++
      put16 (stream % 65536).toNat ++ [opcode.code] ++ put32 body.length) ++ body := rfl
  have hhead : (request stream opcode body).take headerLength = protocolVersion :: 0 ::
      (put16 (stream % 65536).toNat ++ opcode.code :: (put32 body.length ++ [])) := by
    rw [hsplit]
    rfl
  have hlow : (stream % 65536).toNat < 65536 := by omega
  have hlength : Signed32 (body.length : Int) := ⟨by omega, by omega⟩
  refine ⟨?_, by rw [hsplit]; rfl⟩
  rw [hhead, put32_eq_putSigned (by omega), Header.decode, Read.run, readHeader,
    Read.u8_andThen, if_neg (by decide), Read.u8_andThen, Read.reads_u16.andThen_of_fits hlow,
    Read.u8_andThen]
  simp only [ofCode?_code, id]
  rw [Read.i32_andThen hlength, if_neg (by omega), signed16_toNat hstream, Int.toNat_natCast]
  rfl

/-! ## Bodies -/

/-- The body of a query holds its text, and nothing more than is read. -/
theorem readQuery_body {cql : String} (h : (encodeUtf8 cql.toList).length < 2147483648) :
    readQuery (putLongText cql ++ put16 consistencyOne ++ [0]) =
      (.ok (some (encodeUtf8 cql.toList), consistencyOne, 0), []) := by
  have hfits : (Cell.octets (encodeUtf8 cql.toList)).Fits := h
  have hcell : putLongText cql = (Cell.octets (encodeUtf8 cql.toList)).encode := by
    rw [putLongText, put32_eq_putSigned (by omega)]
    rfl
  rw [hcell, readQuery, List.append_assoc, reads_cell.andThen_of_fits hfits,
    Read.reads_u16.andThen_of_fits (by decide)]
  rfl

/-- **Names are read just as far as they are written**: a number of two octets, and
as many texts whose lengths fit two octets. -/
theorem readNames_eq_ok_iff {events : List String} : readNames octets = (.ok events, rest) ↔
    (events.length < 65536 ∧ ∀ e ∈ events, Short e) ∧
      octets = put16 events.length ++ events.flatMap putText ++ rest := by
  rw [readNames, Read.reads_u16.andThen_eq_ok_iff]
  constructor
  · rintro ⟨count, mid, hcount, rfl, hread⟩
    obtain ⟨names, ⟨hlength, hshort⟩, hnames, rfl⟩ := (Read.reads_gather Read.reads_text _ _ _ _).1
      hread
    obtain rfl : names = events := by simpa [Format.listOf] using hnames
    obtain rfl : names.length = count := hlength
    exact ⟨⟨hcount, hshort⟩, by simp [Format.listOf]⟩
  · rintro ⟨⟨hcount, hshort⟩, rfl⟩
    refine ⟨events.length, events.flatMap putText ++ rest, hcount, List.append_assoc _ _ _, ?_⟩
    refine (Read.reads_gather Read.reads_text _ _ _ _).2 ⟨events, ⟨rfl, hshort⟩, ?_, rfl⟩
    simp [Format.listOf]

/-! ## All together -/

/-- **What is sent reads back.** A query that is no longer than a frame may be is
cut after nine octets into a header that says what follows, and a body in which
its text is found, one node's consistency, no flags, and nothing else. The names
of a subscription are found just when there are at most 65535 of at most 65535
octets each. And a text that is read anywhere was written there as it is written
here. -/
theorem requests_read_back :
    (∀ stream cql, Signed16 stream →
      ((query stream cql).drop headerLength).length ≤ bodyLimit →
      Header.decode ((query stream cql).take headerLength) = .ok
        { version := 4
          flags := 0
          stream := stream
          opcode := .query
          length := ((query stream cql).drop headerLength).length } ∧
      readQuery.run ((query stream cql).drop headerLength) =
        (.ok (some (encodeUtf8 cql.toList), 1, 0), [])) ∧
    (∀ stream events, readNames.run ((register stream events).drop headerLength) =
        (.ok events, []) ↔
      events.length ≤ 65535 ∧ ∀ e ∈ events, (encodeUtf8 e.toList).length ≤ 65535) ∧
    ∀ octets s rest, Read.text.run octets = (.ok s, rest) → octets = putText s ++ rest := by
  refine ⟨fun stream cql hstream hbody => ?_, fun stream events => ?_, fun octets s rest h => ?_⟩
  · have hdrop : (query stream cql).drop headerLength =
        putLongText cql ++ put16 consistencyOne ++ [0] := rfl
    rw [hdrop] at hbody ⊢
    have hlimit : bodyLimit = 268435456 := rfl
    have htext : (encodeUtf8 cql.toList).length < 2147483648 := by
      simp only [putLongText, List.length_append] at hbody
      omega
    exact ⟨(decode_request hstream hbody).1, readQuery_body htext⟩
  · have hdrop : (register stream events).drop headerLength =
        put16 events.length ++ events.flatMap putText := rfl
    rw [hdrop, Read.run, readNames_eq_ok_iff, List.append_nil, and_iff_left rfl]
    simp only [Short, Nat.lt_succ_iff]
  · obtain ⟨s, -, rfl, rfl⟩ := (Read.reads_text octets s rest).1 h
    rfl

/-- A query on the lowest stream reads back, and a subscription to 65535 names, but
not to one more, nor to a name of one octet too many. -/
theorem requests_at_the_limits :
    (Header.decode ((query (-32768) "select 'é'").take headerLength) =
        .ok ⟨4, 0, -32768, .query, 18⟩ ∧
      readQuery.run ((query (-32768) "select 'é'").drop headerLength) =
        (.ok (some (encodeUtf8 "select 'é'".toList), 1, 0), [])) ∧
    readNames.run ((register (-1) (List.replicate 65535 "UP")).drop headerLength) =
      (.ok (List.replicate 65535 "UP"), []) ∧
    readNames.run ((register (-1) (List.replicate 65536 "UP")).drop headerLength) ≠
      (.ok (List.replicate 65536 "UP"), []) ∧
    readNames.run ((register 7 [String.ofList (List.replicate 65536 'a')]).drop headerLength) ≠
      (.ok [String.ofList (List.replicate 65536 'a')], []) := by
  obtain ⟨hquery, hregister, -⟩ := requests_read_back
  refine ⟨hquery (-32768) "select 'é'" (by decide) (by decide), ?_, fun h => ?_, fun h => ?_⟩
  · refine (hregister _ _).2 ⟨Nat.le_of_eq List.length_replicate, fun e he => ?_⟩
    obtain rfl : e = "UP" := List.eq_of_mem_replicate he
    decide
  · have hcount := ((hregister _ _).1 h).1
    rw [List.length_replicate] at hcount
    omega
  · have hlength := ((hregister _ _).1 h).2 _ (List.mem_singleton_self _)
    have hone (n : Nat) : (encodeUtf8 (List.replicate n 'a')).length = n := by
      induction n with
      | zero => rfl
      | succ n ih => exact congrArg Nat.succ ih
    rw [String.toList_ofList, hone] at hlength
    omega

end NodeSidecar.Wire
