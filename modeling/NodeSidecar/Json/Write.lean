import NodeSidecar.Json.Basic
import NodeSidecar.Text.Decimal
/-!
# Json — writing

The text of a value, without blanks. In a string only what has to be escaped
is. How a double is written is left to the caller, as a number has more than
one spelling that reads back.
-/

namespace NodeSidecar.Json

/-- A character as it stands between quotes. -/
def escaped (c : Char) : String :=
  if c = '"' then "\\\""
  else if c = '\\' then "\\\\"
  else if c.toNat < 32 then "\\u" ++ String.ofList (Text.hex 4 c.toNat)
  else String.singleton c

/-- A text in quotes. -/
def quoted (s : String) : String :=
  "\"" ++ s.foldl (fun out c => out ++ escaped c) "" ++ "\""

/-- A number, given how a double is written. -/
def writeNumber (double : UInt64 → String) : Number → String
  | .whole n => Text.signedDecimal n
  | .double bits => double bits

mutual

/-- The text of a value, given how a double is written. -/
def write (double : UInt64 → String) : Json → String
  | null => "null"
  | bool b => if b then "true" else "false"
  | number n => writeNumber double n
  | string s => quoted s
  | array items => "[" ++ String.intercalate "," (writeItems double items) ++ "]"
  | object fields => "\x7b" ++ String.intercalate "," (writeFields double fields) ++ "\x7d"

/-- The texts of the items of an array. -/
def writeItems (double : UInt64 → String) : List Json → List String
  | [] => []
  | j :: rest => write double j :: writeItems double rest

/-- The texts of the fields of an object, each with its name in front. -/
def writeFields (double : UInt64 → String) : List (String × Json) → List String
  | [] => []
  | (name, j) :: rest => (quoted name ++ ":" ++ write double j) :: writeFields double rest

end

end NodeSidecar.Json
