import NodeSidecar.Wire.Rows
/-!
# Node settings

What a node says of itself when it is probed.
-/

namespace NodeSidecar

/-- The settings a node reports. -/
structure NodeSettings where
  /-- The release it runs, as it writes it. -/
  releaseVersion : String
  /-- How it spreads rows over nodes. -/
  partitioner : String
  deriving DecidableEq, Repr

namespace NodeSettings

/-- The query that asks a node for its settings. -/
def probeQuery : String :=
  "select release_version, partitioner from system.local"

/-- The text that a column of the node's own row must have. -/
def required (row : Wire.Row) (column : String) : Except Fault String :=
  match row.text? column with
  | .ok (some text) => .ok text
  | .ok none => .error (.protocol s!"system.local row without {column}")
  | .error fault => .error fault

/-- The settings in the first row; none if there is no row. Settings are never
partial: a row without one of the columns is a fault. -/
def ofRows : List Wire.Row → Except Fault (Option NodeSettings)
  | [] => .ok none
  | row :: _ =>
    match required row "release_version" with
    | .error fault => .error fault
    | .ok releaseVersion =>
      match required row "partitioner" with
      | .error fault => .error fault
      | .ok partitioner => .ok (some ⟨releaseVersion, partitioner⟩)

end NodeSettings

end NodeSidecar
