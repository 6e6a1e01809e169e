import NodeSidecar.Fleet.Basic
import NodeSidecar.Text.Decimal
/-!
# Fleet — metrics

What is exposed about the nodes of a fleet. The counts of a monitor are copied
each time they are asked for; a count that is exposed never goes down. The
text has one family a count, families and rows in alphabetical order.
-/

namespace NodeSidecar

/-- What is exposed about one node. -/
structure Sample where
  /-- The node's id. -/
  id : Nat
  /-- The last probe reached the node. -/
  up : Bool
  /-- What its monitor counted. -/
  counts : Counts
  deriving DecidableEq, Repr

/-- The samples, one a node, in the order the nodes were first sampled. -/
abbrev Metrics := List Sample

namespace Metrics

/-- Counts, each raised to that of other counts. -/
def raise (a b : Counts) : Counts :=
  ⟨max a.probes b.probes, max a.skipped b.skipped, max a.swaps b.swaps,
    max a.failures b.failures⟩

/-- Takes in what a monitor says now. -/
def take (metrics : Metrics) (m : Monitor) : Metrics :=
  match metrics.find? (·.id = m.id) with
  | none => metrics ++ [⟨m.id, m.isUp, m.counts⟩]
  | some _ =>
    metrics.map fun s =>
      if s.id = m.id then ⟨s.id, m.isUp, raise s.counts m.counts⟩ else s

/-- Takes in what all monitors say now. -/
def refresh (metrics : Metrics) (monitors : List Monitor) : Metrics :=
  monitors.foldl take metrics

/-! ## As text -/

/-- A family of values, one a node. -/
structure Family where
  /-- The name, after the name of the program. -/
  name : String
  /-- What the values mean. -/
  help : String
  /-- What kind of values they are. -/
  kind : String
  /-- The value of a sample. -/
  value : Sample → Nat

/-- The families, in alphabetical order. -/
def families : List Family :=
  [⟨"adapter_swaps_total", "Adapters installed", "counter", (·.counts.swaps)⟩,
    ⟨"instance_up", "Whether the last probe reached the instance", "gauge",
      fun s => if s.up then 1 else 0⟩,
    ⟨"probe_failures_total", "Probes that found the instance down", "counter",
      (·.counts.failures)⟩,
    ⟨"probes_skipped_total", "Probes skipped while another probe was running", "counter",
      (·.counts.skipped)⟩,
    ⟨"probes_total", "Liveness probes issued", "counter", (·.counts.probes)⟩]

/-- The samples in the order their labels sort. -/
def sorted (metrics : Metrics) : Metrics :=
  metrics.mergeSort fun a b =>
    !decide (String.ofList (Text.decimal b.id) < String.ofList (Text.decimal a.id))

/-- The line of one value. -/
def Family.row (f : Family) (s : Sample) : String :=
  let label := String.ofList (Text.decimal s.id)
  let value := String.ofList (Text.decimal (f.value s))
  "cassandra_sidecar_" ++ f.name ++ "\x7binstance=\"" ++ label ++ "\"\x7d " ++ value ++ "\n"

/-- The lines of one family. -/
def Family.text (f : Family) (samples : Metrics) : String :=
  let full := "cassandra_sidecar_" ++ f.name
  "# HELP " ++ full ++ " " ++ f.help ++ "\n" ++ "# TYPE " ++ full ++ " " ++ f.kind ++ "\n"
    ++ String.join (samples.map f.row)

/-- The exposition of the samples; there is nothing to expose without one. -/
def text (metrics : Metrics) : String :=
  if metrics.isEmpty then ""
  else String.join (families.map (·.text metrics.sorted))

end Metrics

end NodeSidecar
