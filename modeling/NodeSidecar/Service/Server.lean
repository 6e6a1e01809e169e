import NodeSidecar.Fault
import NodeSidecar.Net.Address
/-!
# Service — the server

Where the service listens, and how long the work on one request may take.
-/

namespace NodeSidecar.Service

/-- The settings of the server. -/
structure ServerSettings where
  /-- Where it listens. -/
  address : Net.Endpoint
  /-- How long the work on one request may take, in milliseconds. -/
  requestTimeout : Nat
  deriving DecidableEq, Repr

namespace ServerSettings

/-- A server on all addresses of its machine. -/
def standard : ServerSettings :=
  ⟨.on (.v4 0 0 0 0) 9043, 5000⟩

/-- The settings of a server on a host and a port. The host must be an address;
names are not looked up. -/
def ofHost (host : String) (port requestTimeout : Nat) : Except Fault ServerSettings :=
  let text := s!"{host}:{port}"
  match Net.Endpoint.parse? text with
  | some address => .ok ⟨address, requestTimeout⟩
  | none =>
    .error (.configuration s!"invalid bind address {text}: invalid socket address syntax")

end ServerSettings

end NodeSidecar.Service
