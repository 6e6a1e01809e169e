/-!
# Json — the values

JSON values with the numbers that a wire format with 64-bit integers and
doubles can carry. A double is kept as its bits, so that two values are equal
exactly when they are the same number with the same sign of zero.
-/

namespace NodeSidecar

namespace Json

/-- A JSON number. -/
inductive Number where
  /-- A whole number, from the least signed to the largest unsigned one of 64
  bits. -/
  | whole (n : Int)
  /-- A double, by its bits. -/
  | double (bits : UInt64)
  deriving DecidableEq, Repr

end Json

/-- A JSON value. The fields of an object are kept as they were written. -/
inductive Json where
  | null
  | bool (b : Bool)
  | number (n : Json.Number)
  | string (s : String)
  | array (items : List Json)
  | object (fields : List (String × Json))
  deriving Inhabited

namespace Json

/-- Adds a field to fields in the order of their names, unless one of that
name is there. -/
def addField (key : String) (value : Json) : List (String × Json) → List (String × Json)
  | [] => [(key, value)]
  | (k, v) :: rest =>
    if key = k then (k, v) :: rest
    else if key < k then (key, value) :: (k, v) :: rest
    else (k, v) :: addField key value rest

mutual

/-- The value with the fields of every object in the order of their names, and
of fields with one name only the last. -/
def canonical : Json → Json
  | array items => array (canonicalItems items)
  | object fields => object (canonicalFields fields)
  | j => j

/-- `canonical` on the items of an array. -/
def canonicalItems : List Json → List Json
  | [] => []
  | j :: rest => canonical j :: canonicalItems rest

/-- `canonical` on the fields of an object: the later fields are put in place
first, so an earlier one of the same name finds its place taken. -/
def canonicalFields : List (String × Json) → List (String × Json)
  | [] => []
  | (k, j) :: rest => addField k (canonical j) (canonicalFields rest)

end

/-- The text, if the value is one. -/
def string? : Json → Option String
  | string s => some s
  | _ => none

/-- The fields, if the value is an object whose every field is a text. -/
def texts? : Json → Option (List (String × String))
  | object fields => fields.mapM fun f => f.2.string?.map (f.1, ·)
  | _ => none

end Json

end NodeSidecar
