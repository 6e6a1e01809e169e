import NodeSidecar.Text.Decimal
/-!
# Faults

What can go wrong, one constructor a cause, the wording of each cause, and
the three questions callers ask of a fault: could the node not be reached,
will it pass by itself, and is trying again worth while.
-/

namespace NodeSidecar

/-- Why an operation failed. -/
inductive Fault where
  /-- A broken expectation inside the sidecar. -/
  | internal (detail : String)
  /-- A configuration that cannot be used. -/
  | configuration (detail : String)
  /-- Work that took longer than it may. -/
  | timeout (operation : String) (millis : Nat)
  /-- The query session to a node could not be used. -/
  | sessionUnavailable (endpoint reason : String)
  /-- The node answered a query with an error. -/
  | queryFailed (code : Int) (detail : String)
  /-- The node broke the wire protocol. -/
  | protocol (detail : String)
  /-- A text that is no release version. -/
  | malformedVersion (version : String)
  /-- A release older than every adapter. -/
  | unsupportedVersion (version : String)
  /-- A node that no probe has reached yet. -/
  | adapterUnavailable (node : Nat)
  /-- A caller's argument that cannot be used. -/
  | invalidArgument (detail : String)
  /-- The management endpoint of a node could not be used. -/
  | managementUnavailable (endpoint reason : String)
  /-- A managed object refused or failed a call. -/
  | remoteInvocation (object member reason : String)
  /-- A text that is no managed object name. -/
  | invalidObjectName (detail : String)
  /-- No node has that id. -/
  | instanceNotFound (node : Nat)
  /-- A text that is not the expected YAML. -/
  | malformedYaml (detail : String)
  /-- A text that is not the expected JSON. -/
  | malformedJson (detail : String)
  /-- Metrics that cannot be rendered. -/
  | metrics (detail : String)
  /-- Input or output that failed. -/
  | io (detail : String)
  deriving DecidableEq, Repr

namespace Fault

/-- A server's error code as it is shown: hexadecimal in at least four digits,
a negative code as the thirty-two bits that carry it. -/
def codeText (code : Int) : String :=
  "0x" ++ String.ofList (Text.hex 4 (code % 4294967296).toNat)

/-- The wording of a fault. -/
def message : Fault → String
  | internal detail => s!"Internal error: {detail}"
  | configuration detail => s!"Configuration error: {detail}"
  | timeout operation millis => s!"Timed out after {millis}ms: {operation}"
  | sessionUnavailable endpoint reason => s!"CQL session unavailable for {endpoint}: {reason}"
  | queryFailed code detail => "CQL query failed with code " ++ codeText code ++ ": " ++ detail
  | protocol detail => s!"CQL protocol error: {detail}"
  | malformedVersion version => s!"Malformed Cassandra version: {version}"
  | unsupportedVersion version => s!"Unsupported Cassandra version: {version}"
  | adapterUnavailable node =>
    s!"No adapter loaded for instance {node}; no successful health check yet"
  | invalidArgument detail => s!"Invalid argument: {detail}"
  | managementUnavailable endpoint reason =>
    s!"Management endpoint unavailable: {endpoint} - {reason}"
  | remoteInvocation object member reason =>
    s!"Remote invocation failed: {object}#{member}: {reason}"
  | invalidObjectName detail => s!"Invalid managed object name: {detail}"
  | instanceNotFound node => s!"Instance not found: {node}"
  | malformedYaml detail => s!"YAML parse error: {detail}"
  | malformedJson detail => s!"JSON parse error: {detail}"
  | metrics detail => s!"Metrics error: {detail}"
  | io detail => s!"IO error: {detail}"

/-- The node or its management endpoint could not be reached. -/
def isConnectivity : Fault → Bool
  | sessionUnavailable .. | managementUnavailable .. => true
  | _ => false

/-- The fault may pass without anybody doing anything. -/
def isTransient (f : Fault) : Bool :=
  f.isConnectivity ||
    match f with
    | adapterUnavailable .. | timeout .. => true
    | _ => false

/-- Trying the same thing again may succeed. -/
def isRetryable : Fault → Bool
  | configuration .. | invalidArgument .. | invalidObjectName .. | malformedVersion ..
  | unsupportedVersion .. | instanceNotFound .. => false
  | _ => true

end Fault

end NodeSidecar
