import NodeSidecar.Json.Basic
/-!
# Management — managed values

What is passed to managed objects and what they answer. A value with a flat
shape has a constructor of its own; anything else is kept as the JSON it
came as.
-/

namespace NodeSidecar.Management

/-- An argument of a managed operation, or what an attribute or operation
answers. -/
inductive Value where
  | null
  | bool (b : Bool)
  /-- A whole number of 64 bits with a sign. -/
  | long (n : Int)
  /-- A double, by its bits. -/
  | double (bits : UInt64)
  | text (s : String)
  | texts (items : List String)
  | table (entries : List (String × String))
  /-- Anything without a flat shape. -/
  | composite (j : Json)
  deriving Inhabited

namespace Value

/-- The exponent bits of a double. All of them are set in infinities and in
what is not a number. -/
def exponentMask : UInt64 := 0x7FF0000000000000

/-- A double that is a number and finite. -/
def isFinite (bits : UInt64) : Bool :=
  bits &&& exponentMask != exponentMask

/-- The value as JSON. A double that is not finite has no JSON form and
becomes null. -/
def toJson : Value → Json
  | null => .null
  | bool b => .bool b
  | long n => .number (.whole n)
  | double bits => if isFinite bits then .number (.double bits) else .null
  | text s => .string s
  | texts items => .array (items.map .string)
  | table entries => .object (entries.map fun e => (e.1, .string e.2))
  | composite j => j

/-- The largest whole number of 64 bits with a sign. -/
def longMax : Int := 9223372036854775807

/-- The value of a JSON number: whole numbers with room in 64 bits and a sign
stay whole. -/
def ofNumber : Json.Number → Value
  | .whole n => if n ≤ longMax then long n else double n.toNat.toUInt64.toFloat.toBits
  | .double bits => double bits

/-- The value of a JSON value: arrays and objects of texts are flat, other
arrays and objects composite. -/
def ofJson : Json → Value
  | .null => null
  | .bool b => bool b
  | .number n => ofNumber n
  | .string s => text s
  | .array items =>
    match items.mapM Json.string? with
    | some items => texts items
    | none => composite (.array items)
  | .object fields =>
    match fields.mapM fun f => f.2.string?.map (f.1, ·) with
    | some entries => table entries
    | none => composite (.object fields)

/-- The text, if the value is one. -/
def text? : Value → Option String
  | text s => some s
  | _ => none

/-- The value is null. -/
def isNull : Value → Bool
  | null => true
  | _ => false

/-- What kind of value it is, in one word. -/
def kind : Value → String
  | null => "null"
  | bool _ => "boolean"
  | long _ => "long"
  | double _ => "double"
  | text _ => "string"
  | texts _ => "string[]"
  | table _ => "map"
  | composite _ => "composite"

end Value

end NodeSidecar.Management
