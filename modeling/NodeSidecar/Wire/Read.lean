import NodeSidecar.Net.Address
/-!
# Wire — reading a frame body

A body is read front to back. A read answers a value or a flaw and leaves the
octets that it did not consume, so that reading can go on after a flaw. A
read that finds too few octets for a field leaves that field's octets where
they are; only a length in front of it is gone.
-/

namespace NodeSidecar.Wire

open Text (Octets)

/-- Why octets are not what the wire protocol allows. -/
inductive Flaw where
  /-- A field needs more octets than there are. -/
  | truncated (need left : Nat)
  /-- A text is not UTF-8. -/
  | text (flaw : Text.Utf8Flaw)
  /-- A host address has another length than four or sixteen. -/
  | hostLength (length : Nat)
  /-- A port does not fit sixteen bits. -/
  | port (port : Int)
  /-- Column types are nested too deep. -/
  | nesting
  /-- A result has a negative number of columns. -/
  | columnCount (count : Int)
  /-- A result leaves out what its columns are. -/
  | noMetadata
  /-- A result has a negative number of rows. -/
  | rowCount (count : Int)
  /-- A frame of another protocol version. -/
  | version (version : UInt8)
  /-- A frame of an unknown kind. -/
  | opcode (code : UInt8)
  /-- A frame whose length is negative or above the limit. -/
  | frameLength (length : Int)
  deriving DecidableEq, Repr

/-- How many types may enclose a column type. -/
def nestingLimit : Nat := 16

namespace Flaw

/-- An octet as it is shown: hexadecimal in two digits. -/
def octetText (b : UInt8) : String :=
  "0x" ++ String.ofList (Text.hex 2 b.toNat)

/-- The wording of a flaw. -/
def message : Flaw → String
  | .truncated need left => s!"truncated frame body: need {need} bytes, have {left}"
  | .text flaw => s!"invalid utf-8: {flaw.message}"
  | .hostLength length => s!"invalid inet length {length}"
  | .port n => "invalid port " ++ Text.signedDecimal n
  | .nesting => s!"column type nested deeper than {nestingLimit}"
  | .columnCount count => "invalid column count " ++ Text.signedDecimal count
  | .noMetadata => "rows result without metadata"
  | .rowCount count => "invalid row count " ++ Text.signedDecimal count
  | .version n => "unsupported protocol version " ++ octetText n
  | .opcode code => "unknown opcode " ++ octetText code
  | .frameLength length => "invalid frame length " ++ Text.signedDecimal length

end Flaw

/-- A read of a value from the front of a body. -/
def Read (α : Type) : Type :=
  Octets → Except Flaw α × Octets

namespace Read

variable {α β : Type}

/-- The value and what is left, when the read starts at `octets`. -/
def run (r : Read α) (octets : Octets) : Except Flaw α × Octets :=
  r octets

/-- Reads nothing. -/
def done (a : α) : Read α :=
  fun octets => (.ok a, octets)

/-- Fails where it stands. -/
def fail (flaw : Flaw) : Read α :=
  fun octets => (.error flaw, octets)

/-- Reads on with what was read. -/
def andThen (r : Read α) (next : α → Read β) : Read β :=
  fun octets =>
    match r octets with
    | (.ok a, rest) => next a rest
    | (.error flaw, rest) => (.error flaw, rest)

instance : Monad Read where
  pure := done
  bind := andThen

/-- Whether there are at least `n` octets; looks at no more than that. -/
def hasAtLeast : Nat → Octets → Bool
  | 0, _ => true
  | _ + 1, [] => false
  | n + 1, _ :: rest => hasAtLeast n rest

theorem hasAtLeast_iff {n : Nat} {octets : Octets} :
    hasAtLeast n octets = true ↔ n ≤ octets.length := by
  induction n generalizing octets with
  | zero => simp [hasAtLeast]
  | succ n ih => cases octets <;> simp [hasAtLeast, ih]

/-- The next `n` octets. -/
def take (n : Nat) : Read Octets :=
  fun octets =>
    if hasAtLeast n octets then (.ok (octets.take n), octets.drop n)
    else (.error (.truncated n octets.length), octets)

/-- A number of one octet. -/
def u8 : Read UInt8
  | b :: rest => (.ok b, rest)
  | [] => (.error (.truncated 1 0), [])

/-- A number of two octets, the high one first. -/
def u16 : Read Nat
  | a :: b :: rest => (.ok (a.toNat * 256 + b.toNat), rest)
  | octets => (.error (.truncated 2 octets.length), octets)

/-- The number with a sign that the low `bits` bits of `n` stand for. -/
def signed (bits n : Nat) : Int :=
  if n < Nat.pow 2 (bits - 1) then n else (n : Int) - Nat.pow 2 bits

/-- A number of four octets with a sign, the high one first. -/
def i32 : Read Int
  | a :: b :: c :: d :: rest =>
    (.ok (signed 32 (((a.toNat * 256 + b.toNat) * 256 + c.toNat) * 256 + d.toNat)), rest)
  | octets => (.error (.truncated 4 octets.length), octets)

/-- A text after its length in two octets. -/
def text : Read String := do
  let length ← u16
  let octets ← take length
  match Text.decodeUtf8 octets with
  | .ok cs => done (String.ofList cs)
  | .error flaw => fail (.text flaw)

/-- Octets after their length in four octets; a negative length stands for
null. -/
def octets : Read (Option Octets) := do
  let length ← i32
  if length < 0 then done none
  else
    let octets ← take length.toNat
    done (some octets)

/-- The number of sixteen bits in two octets. -/
def pair (a b : UInt8) : UInt16 :=
  a.toUInt16 * 256 + b.toUInt16

/-- The host that octets of its address stand for. -/
def host? : Octets → Option Net.Host
  | [a, b, c, d] => some (.v4 a b c d)
  | [a, a', b, b', c, c', d, d', e, e', f, f', g, g', h, h'] =>
    some (.v6 (pair a a') (pair b b') (pair c c') (pair d d') (pair e e') (pair f f')
      (pair g g') (pair h h'))
  | _ => none

/-- The next `length` octets as a host. Octets of a wrong number stay. -/
def host (length : Nat) : Read Net.Host :=
  fun octets =>
    match take length octets with
    | (.ok address, rest) =>
      match host? address with
      | some host => (.ok host, rest)
      | none => (.error (.hostLength length), octets)
    | (.error flaw, rest) => (.error flaw, rest)

/-- A host after the length of its address, and a port in four octets. -/
def endpoint : Read Net.Endpoint := do
  let length ← u8
  let host ← host length.toNat
  let port ← i32
  if 0 ≤ port ∧ port ≤ 65535 then done (.on host port.toNat.toUInt16)
  else fail (.port port)

/-- The same read `n` times over. -/
def times : Nat → Read Unit → Read Unit
  | 0, _ => done ()
  | n + 1, r => fun octets =>
    match r octets with
    | (.ok _, rest) => times n r rest
    | (.error flaw, rest) => (.error flaw, rest)

/-- The values of the same read `n` times over, after those in `read`, the
last one first. -/
def gatherFrom (r : Read α) : (n : Nat) → (read : List α) → Read (List α)
  | 0, read => done read.reverse
  | n + 1, read => fun octets =>
    match r octets with
    | (.ok a, rest) => gatherFrom r n (a :: read) rest
    | (.error flaw, rest) => (.error flaw, rest)

/-- The values of the same read `n` times over. -/
def gather (n : Nat) (r : Read α) : Read (List α) :=
  gatherFrom r n []

/-- One value for each item, after those in `read`, the last one first. -/
def forEachFrom (r : α → Read β) : (items : List α) → (read : List β) → Read (List β)
  | [], read => done read.reverse
  | a :: items, read => fun octets =>
    match r a octets with
    | (.ok b, rest) => forEachFrom r items (b :: read) rest
    | (.error flaw, rest) => (.error flaw, rest)

/-- One value for each item, in order. -/
def forEach (items : List α) (r : α → Read β) : Read (List β) :=
  forEachFrom r items []

end Read

end NodeSidecar.Wire
