import NodeSidecar.Text.Decimal
import NodeSidecar.Text.Split
import NodeSidecar.Text.Utf8
/-!
# HTTP — request targets

A request names what it is about by a path, and says more about it in a
query. Both may hold octets in percent form. A path is cut into segments
before anything is decoded, so a slash in percent form belongs to its
segment; a query is cut into pairs before anything is decoded.
-/

namespace NodeSidecar.Http

open Text (Octets)

/-- Octets with percent forms decoded. A percent sign without two hexadecimal
digits behind it stands for itself. -/
def percentDecode : Octets → Octets
  | [] => []
  | 0x25 :: a :: b :: rest =>
    match Text.hexValue? (Char.ofNat a.toNat), Text.hexValue? (Char.ofNat b.toNat) with
    | some high, some low => UInt8.ofNat (16 * high + low) :: percentDecode rest
    | _, _ => 0x25 :: percentDecode (a :: b :: rest)
  | b :: rest => b :: percentDecode rest

/-- The text of octets, if they are text. -/
def text? (octets : Octets) : Option String :=
  match Text.decodeUtf8 octets with
  | .ok cs => some (String.ofList cs)
  | .error _ => none

/-- The text that a path segment stands for. -/
def segmentText? (segment : List Char) : Option String :=
  text? (percentDecode (Text.encodeUtf8 segment))

/-- A plus sign in a query stands for a space. -/
def plusToSpace (b : UInt8) : UInt8 :=
  if b = 0x2B then 0x20 else b

/-- The text that a name or a value in a query stands for. -/
def formText? (part : List Char) : Option String :=
  text? (percentDecode ((Text.encodeUtf8 part).map plusToSpace))

/-- What a request is about, undecoded. -/
structure Target where
  /-- The segments of the path. -/
  segments : List (List Char)
  /-- The names and values of the query. -/
  pairs : List (List Char × List Char)
  deriving DecidableEq, Repr

namespace Target

/-- A name and its value; a name alone has an empty value. -/
def pair (piece : List Char) : List Char × List Char :=
  (Text.cutAt '=' piece).getD (piece, [])

/-- The pairs of a query. Empty pieces are no pairs. -/
def pairsOf (query : List Char) : List (List Char × List Char) :=
  ((Text.pieces '&' query).filter (!·.isEmpty)).map pair

/-- The target that a text spells. What follows a number sign is not sent. -/
def parse (text : String) : Target :=
  let sent := text.toList.takeWhile (· != '#')
  match Text.cutAt '?' sent with
  | some (path, query) => ⟨(Text.pieces '/' path).drop 1, pairsOf query⟩
  | none => ⟨(Text.pieces '/' sent).drop 1, []⟩

/-- The values that the query has for a name. -/
def values (t : Target) (name : String) : List (Option String) :=
  (t.pairs.filter fun p => formText? p.1 = some name).map fun p => formText? p.2

end Target

end NodeSidecar.Http
