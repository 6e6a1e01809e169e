import NodeSidecar.Text.Decimal
import NodeSidecar.Text.Utf8
/-!
# Net — internet addresses

Addresses of hosts, with a port, and their text. An address of version 6
stands in brackets; its longest run of two or more zero groups, the first one
if there are several, is written `::`, and an address that stands for one of
version 4 ends in it.
-/

namespace NodeSidecar.Net

/-- The address of a host. -/
inductive Host where
  /-- Version 4: four octets. -/
  | v4 (a b c d : UInt8)
  /-- Version 6: eight groups of sixteen bits. -/
  | v6 (a b c d e f g h : UInt16)
  deriving DecidableEq, Repr

/-- A host and a port. -/
structure Endpoint where
  /-- The host. -/
  host : Host
  /-- The port. -/
  port : UInt16
  /-- Which of the machine's links an address of version 6 is meant on; zero
  for none in particular. -/
  scope : UInt32
  deriving DecidableEq, Repr

namespace Host

/-- Four octets with points between them. -/
def quad (a b c d : Nat) : String :=
  s!"{a}.{b}.{c}.{d}"

/-- The length of the run of zeros at the front. -/
def zeros (groups : List Nat) : Nat :=
  (groups.takeWhile (· = 0)).length

/-- Where the longest run of zeros starts and how long it is, the first of
several; `passed` counts the groups in front. -/
def longestZeros (passed : Nat) : List Nat → Nat × Nat
  | [] => (passed, 0)
  | g :: rest =>
    let here := zeros (g :: rest)
    let later := longestZeros (passed + 1) rest
    if later.2 ≤ here then (passed, here) else later

/-- Groups in lower-case hexadecimal with colons between them. -/
def groupsText (groups : List Nat) : String :=
  String.intercalate ":" (groups.map fun g => String.ofList (Nat.toDigits 16 g))

/-- Eight groups as text, their longest run of zeros shortened. -/
def groupsDisplay (groups : List Nat) : String :=
  let (start, length) := longestZeros 0 groups
  if 1 < length then
    groupsText (groups.take start) ++ "::" ++ groupsText (groups.drop (start + length))
  else groupsText groups

/-- The text of an address. -/
def display : Host → String
  | v4 a b c d => quad a.toNat b.toNat c.toNat d.toNat
  | v6 a b c d e f g h =>
    if a = 0 ∧ b = 0 ∧ c = 0 ∧ d = 0 ∧ e = 0 ∧ f = 0xFFFF then
      "::ffff:" ++ quad (g.toNat / 256) (g.toNat % 256) (h.toNat / 256) (h.toNat % 256)
    else groupsDisplay ([a, b, c, d, e, f, g, h].map UInt16.toNat)

end Host

namespace Endpoint

/-- An endpoint on no link in particular. -/
def on (host : Host) (port : UInt16) : Endpoint :=
  ⟨host, port, 0⟩

/-- The text of an endpoint. -/
def display (e : Endpoint) : String :=
  match e.host with
  | .v4 .. => s!"{e.host.display}:{e.port}"
  | .v6 .. =>
    if e.scope = 0 then s!"[{e.host.display}]:{e.port}"
    else s!"[{e.host.display}%{e.scope}]:{e.port}"

end Endpoint

/-- Reads the digits of a base in front; none if there is no digit or there
are more than `width`, or the value is above `top`. Leading zeros are refused
unless `padded`. -/
def readNumber (base width top : Nat) (padded : Bool) (cs : List Char) :
    Option (Nat × List Char) :=
  let digits := cs.takeWhile fun c => (Text.digitIn? base c).isSome
  match Text.digitsIn? base top digits with
  | none => none
  | some n =>
    if width < digits.length || (!padded && 1 < digits.length && digits.head? = some '0') then
      none
    else some (n, cs.drop digits.length)

/-- Reads one character. -/
def readChar (c : Char) : List Char → Option (List Char)
  | [] => none
  | x :: rest => if x = c then some rest else none

/-- An octet in at most three decimal digits. -/
def readOctet (cs : List Char) : Option (Nat × List Char) :=
  readNumber 10 3 255 false cs

/-- An address of version 4. -/
def readQuad (cs : List Char) : Option ((Nat × Nat × Nat × Nat) × List Char) := do
  let (a, cs) ← readOctet cs
  let cs ← readChar '.' cs
  let (b, cs) ← readOctet cs
  let cs ← readChar '.' cs
  let (c, cs) ← readOctet cs
  let cs ← readChar '.' cs
  let (d, cs) ← readOctet cs
  return ((a, b, c, d), cs)

/-- Groups as they were read: the last one first, the rest of the text, and
whether they end in an address of version 4. -/
structure Groups where
  groups : List Nat
  rest : List Char
  quad : Bool

/-- Reads at most `room` groups of an address of version 6; the last two may
be written as an address of version 4. -/
def readGroups : (room : Nat) → (read : List Nat) → List Char → Groups
  | 0, read, cs => ⟨read, cs, false⟩
  | room + 1, read, cs =>
    let next := if read.isEmpty then some cs else readChar ':' cs
    let quad := if room = 0 then none else next.bind readQuad
    match quad with
    | some ((a, b, c, d), rest) => ⟨(c * 256 + d) :: (a * 256 + b) :: read, rest, true⟩
    | none =>
      match next.bind (readNumber 16 4 Text.max16 true) with
      | some (g, rest) => readGroups room (g :: read) rest
      | none => ⟨read, cs, false⟩

/-- The address of eight groups. -/
def ofGroups : List Nat → Option Host
  | [a, b, c, d, e, f, g, h] =>
    some (.v6 a.toUInt16 b.toUInt16 c.toUInt16 d.toUInt16 e.toUInt16 f.toUInt16 g.toUInt16
      h.toUInt16)
  | _ => none

/-- An address of version 6. What is left out at `::` is at least one group. -/
def readV6 (cs : List Char) : Option (Host × List Char) := do
  let head := readGroups 8 [] cs
  if head.groups.length = 8 then
    return (← ofGroups head.groups.reverse, head.rest)
  if head.quad then none
  let rest ← readChar ':' head.rest
  let rest ← readChar ':' rest
  let tail := readGroups (7 - head.groups.length) [] rest
  let gap := 8 - head.groups.length - tail.groups.length
  let host ← ofGroups (head.groups.reverse ++ List.replicate gap 0 ++ tail.groups.reverse)
  return (host, tail.rest)

/-- A port after its colon. -/
def readPort (cs : List Char) : Option (Nat × List Char) := do
  let cs ← readChar ':' cs
  readNumber 10 cs.length Text.max16 true cs

/-- The number after a percent sign, zero without one. -/
def readScope (cs : List Char) : Nat × List Char :=
  match (readChar '%' cs).bind fun cs => readNumber 10 cs.length Text.max32 true cs with
  | some (n, rest) => (n, rest)
  | none => (0, cs)

/-- An endpoint whose host has version 4. -/
def readEndpoint4 (cs : List Char) : Option (Endpoint × List Char) := do
  let ((a, b, c, d), cs) ← readQuad cs
  let (port, cs) ← readPort cs
  return (.on (.v4 a.toUInt8 b.toUInt8 c.toUInt8 d.toUInt8) port.toUInt16, cs)

/-- An endpoint whose host has version 6. -/
def readEndpoint6 (cs : List Char) : Option (Endpoint × List Char) := do
  let cs ← readChar '[' cs
  let (host, cs) ← readV6 cs
  let (scope, cs) := readScope cs
  let cs ← readChar ']' cs
  let (port, cs) ← readPort cs
  return (⟨host, port.toUInt16, scope.toUInt32⟩, cs)

/-- The endpoint that a whole text spells. -/
def Endpoint.parse? (text : String) : Option Endpoint :=
  match readEndpoint4 text.toList with
  | some (e, []) => some e
  | _ =>
    match readEndpoint6 text.toList with
    | some (e, []) => some e
    | _ => none

end NodeSidecar.Net
