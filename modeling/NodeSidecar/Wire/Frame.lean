import NodeSidecar.Wire.Read
/-!
# Wire — frames

A frame is a header of nine octets and a body whose length the header tells.
This file holds the header, the kinds of frames, and the frames that the
sidecar sends.
-/

namespace NodeSidecar.Wire

open Text (Octets)

/-- The kinds of frames. -/
inductive Opcode where
  | error
  | startup
  | ready
  | authenticate
  | options
  | supported
  | query
  | result
  | register
  | event
  deriving DecidableEq, Repr

namespace Opcode

/-- The octet that stands for a kind. -/
def code : Opcode → UInt8
  | error => 0x00
  | startup => 0x01
  | ready => 0x02
  | authenticate => 0x03
  | options => 0x05
  | supported => 0x06
  | query => 0x07
  | result => 0x08
  | register => 0x0B
  | event => 0x0C

/-- All kinds. -/
def all : List Opcode :=
  [error, startup, ready, authenticate, options, supported, query, result, register, event]

/-- The kind that an octet stands for. -/
def ofCode? (b : UInt8) : Option Opcode :=
  all.find? (·.code = b)

/-- The name of a kind. -/
def name : Opcode → String
  | error => "Error"
  | startup => "Startup"
  | ready => "Ready"
  | authenticate => "Authenticate"
  | options => "Options"
  | supported => "Supported"
  | query => "Query"
  | result => "Result"
  | register => "Register"
  | event => "Event"

end Opcode

/-- The protocol version that is spoken. -/
def protocolVersion : UInt8 := 4

/-- The bit that marks the version of a frame from the server. -/
def responseBit : UInt8 := 0x80

/-- How many octets a header has. -/
def headerLength : Nat := 9

/-- The longest body that is accepted, 256 MiB. -/
def bodyLimit : Nat := 268435456

/-- The stream of frames that answer no request. -/
def eventStream : Int := -1

/-- The header of a frame. -/
structure Header where
  /-- The protocol version, with the response bit. -/
  version : UInt8
  /-- Flags; none is used. -/
  flags : UInt8
  /-- Which request the frame belongs to. -/
  stream : Int
  /-- The kind of frame. -/
  opcode : Opcode
  /-- How many octets the body has. -/
  length : Nat
  deriving DecidableEq, Repr

/-- Reads a header. Of several flaws the first of version, kind and length is
told. -/
def readHeader : Read Header := do
  let version ← Read.u8
  if version &&& ~~~responseBit ≠ protocolVersion then Read.fail (.version version)
  else
    let flags ← Read.u8
    let stream ← Read.u16
    let code ← Read.u8
    match Opcode.ofCode? code with
    | none => Read.fail (.opcode code)
    | some opcode =>
      let length ← Read.i32
      if length < 0 ∨ bodyLimit < length.toNat then Read.fail (.frameLength length)
      else Read.done ⟨version, flags, Read.signed 16 stream, opcode, length.toNat⟩

/-- The header in nine octets. -/
def Header.decode (octets : Octets) : Except Flaw Header :=
  (readHeader.run octets).1

/-- A frame. -/
structure Frame where
  /-- The header. -/
  header : Header
  /-- The body. -/
  body : Octets
  deriving DecidableEq, Repr

/-! ## Frames that are sent -/

/-- The low two octets of a number, the high one first. -/
def put16 (n : Nat) : Octets :=
  [UInt8.ofNat (n / 256), UInt8.ofNat n]

/-- The low four octets of a number, the high one first. -/
def put32 (n : Nat) : Octets :=
  [UInt8.ofNat (n / 16777216), UInt8.ofNat (n / 65536), UInt8.ofNat (n / 256), UInt8.ofNat n]

/-- A text after its length in two octets. Of a longer length the low bits are
written, and all of the text. -/
def putText (s : String) : Octets :=
  let octets := Text.encodeUtf8 s.toList
  put16 octets.length ++ octets

/-- A text after its length in four octets. -/
def putLongText (s : String) : Octets :=
  let octets := Text.encodeUtf8 s.toList
  put32 octets.length ++ octets

/-- The two octets of a stream. -/
def putStream (stream : Int) : Octets :=
  put16 (stream % 65536).toNat

/-- A frame that is sent. -/
def request (stream : Int) (opcode : Opcode) (body : Octets) : Octets :=
  [protocolVersion, 0] ++ putStream stream ++ [opcode.code] ++ put32 body.length ++ body

/-- The frame that opens a conversation. -/
def startup (stream : Int) : Octets :=
  request stream .startup (put16 1 ++ putText "CQL_VERSION" ++ putText "3.0.0")

/-- The consistency of every query: one node answers. -/
def consistencyOne : Nat := 1

/-- The frame of a query. -/
def query (stream : Int) (cql : String) : Octets :=
  request stream .query (putLongText cql ++ put16 consistencyOne ++ [0])

/-- The frame that subscribes to kinds of events. -/
def register (stream : Int) (events : List String) : Octets :=
  request stream .register (put16 events.length ++ events.flatMap putText)

end NodeSidecar.Wire
