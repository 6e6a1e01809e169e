import NodeSidecar.Fault
import NodeSidecar.Wire.Frame
/-!
# Wire — results and errors

The bodies of the frames that answer a query: rows of raw cells under column
names, or an error. Column types are read over; a result of another kind than
rows has no rows.
-/

namespace NodeSidecar.Wire

open Text (Octets)

/-- A row: its cells in order, each under the name of its column. -/
structure Row where
  /-- The names and the cells; a cell without octets is null. -/
  cells : List (String × Option Octets)
  deriving DecidableEq, Repr

namespace Row

/-- The text in the first column of a name; none when there is no such column
or its cell is null. -/
def text? (row : Row) (column : String) : Except Fault (Option String) :=
  match row.cells.find? (·.1 = column) with
  | none => .ok none
  | some (_, none) => .ok none
  | some (_, some octets) =>
    match Text.decodeUtf8 octets with
    | .ok cs => .ok (some (String.ofList cs))
    | .error _ => .error (.protocol s!"column {column} is not valid UTF-8")

/-- A row of texts. -/
def ofTexts (cells : List (String × String)) : Row :=
  ⟨cells.map fun c => (c.1, some (Text.encodeUtf8 c.2.toList))⟩

end Row

/-- Reads over a column type that at most `room - 1` further types may be
nested in. -/
def skipType : (room : Nat) → Read Unit
  | 0 => Read.fail .nesting
  | room + 1 => do
    let kind ← Read.u16
    match kind with
    | 0x0000 =>
      let _ ← Read.text
      Read.done ()
    | 0x0020 => skipType room
    | 0x0022 => skipType room
    | 0x0021 =>
      skipType room
      skipType room
    | 0x0030 =>
      let _ ← Read.text
      let _ ← Read.text
      let fields ← Read.u16
      Read.times fields do
        let _ ← Read.text
        skipType room
    | 0x0031 =>
      let items ← Read.u16
      Read.times items (skipType room)
    | _ => Read.done ()

/-- The kind of result that holds rows. -/
def rowsKind : Int := 2

/-- Whether a bit is set in flags. -/
def hasFlag (flags : Int) (bit : Nat) : Bool :=
  flags / Nat.pow 2 bit % 2 = 1

/-- The bit that says one table is named for all columns. -/
def globalTableBit : Nat := 0

/-- The bit that says a paging state follows. -/
def morePagesBit : Nat := 1

/-- The bit that says the columns are left out. -/
def noMetadataBit : Nat := 2

/-- Reads a keyspace and a table. -/
def skipTable : Read Unit := do
  let _ ← Read.text
  let _ ← Read.text
  Read.done ()

/-- Reads the name of a column and over its type. -/
def readColumn (globalTable : Bool) : Read String := do
  unless globalTable do skipTable
  let name ← Read.text
  skipType (nestingLimit + 1)
  Read.done name

/-- Reads a row under these column names. -/
def readRow (names : List String) : Read Row := do
  let cells ← Read.forEach names fun name => do
    let cell ← Read.octets
    Read.done (name, cell)
  Read.done ⟨cells⟩

/-- Reads the columns and the rows of a result that holds rows. -/
def readRows : Read (List Row) := do
  let flags ← Read.i32
  let columns ← Read.i32
  if columns < 0 then Read.fail (.columnCount columns)
  else
    if hasFlag flags morePagesBit then
      let _ ← Read.octets
    if hasFlag flags noMetadataBit then Read.fail .noMetadata
    else
      if hasFlag flags globalTableBit then skipTable
      let names ← Read.gather columns.toNat (readColumn (hasFlag flags globalTableBit))
      let rows ← Read.i32
      if rows < 0 then Read.fail (.rowCount rows)
      else Read.gather rows.toNat (readRow names)

/-- Reads a result. -/
def readResult : Read (List Row) := do
  let kind ← Read.i32
  if kind = rowsKind then readRows else Read.done []

/-- The rows of a result body. -/
def parseRows (body : Octets) : Except Flaw (List Row) :=
  (readResult.run body).1

/-- Reads an error. -/
def readError : Read (Int × String) := do
  let code ← Read.i32
  let detail ← Read.text
  Read.done (code, detail)

/-- The code and the text of an error body. -/
def parseError (body : Octets) : Except Flaw (Int × String) :=
  (readError.run body).1

/-- A flaw as the fault it causes. -/
def Flaw.fault (flaw : Flaw) : Fault :=
  .protocol flaw.message

/-- The rows that the answer to a query carries. -/
def Frame.rows (frame : Frame) : Except Fault (List Row) :=
  match frame.header.opcode with
  | .result => (parseRows frame.body).mapError Flaw.fault
  | .error =>
    match parseError frame.body with
    | .ok (code, detail) => .error (.queryFailed code detail)
    | .error flaw => .error flaw.fault
  | other => .error (.protocol s!"unexpected {other.name} response to QUERY")

end NodeSidecar.Wire
