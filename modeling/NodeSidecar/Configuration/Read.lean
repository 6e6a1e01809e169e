import NodeSidecar.Configuration.Basic
import NodeSidecar.Configuration.Tree
/-!
# Configuration — reading

The configuration that a document spells. What is not known is ignored; what is
known has to be of the right kind. A configuration that cannot be used is not
read at all.
-/

namespace NodeSidecar.Configuration

/-- Reads how the service is offered. -/
def readService (t : Tree) : Option ServiceSection := do
  let [host, port, requestTimeout] ← t.section? ["host", "port", "request_timeout_millis"] | none
  let host ← orDefault ServiceSection.standard.host Tree.text? host
  let port ← orDefault ServiceSection.standard.port (Tree.number? Text.max16) port
  let requestTimeout ←
    orDefault ServiceSection.standard.requestTimeout (Tree.number? Text.max64) requestTimeout
  return ⟨host, port, requestTimeout⟩

/-- Reads how nodes are probed. -/
def readProbes (t : Tree) : Option ProbeSection := do
  let [period] ← t.section? ["poll_freq_millis"] | none
  let period ← orDefault ProbeSection.standard.period (Tree.number? Text.max64) period
  return ⟨period⟩

/-- The names of what is said of a node. -/
def nodeNames : List String :=
  ["id", "host", "port", "data_dirs", "jmx_host", "jmx_port", "jmx_role", "jmx_role_password",
    "jmx_ssl_enabled"]

/-- Reads a node. Its host, its port and its directories must be given. -/
def readNode (t : Tree) : Option NodeSection := do
  let [id, host, port, directories, linkHost, linkPort, role, password, encrypted] ←
    t.section? nodeNames | none
  let id ← orDefault NodeSection.standardId (Tree.number? Text.max32) id
  let host ← host.bind Tree.text?
  let port ← port.bind (Tree.number? Text.max16)
  let directories ← directories.bind Tree.text?
  let linkHost ← orDefault NodeSection.standardLinkHost Tree.text? linkHost
  let linkPort ← orDefault Management.defaultPort (Tree.number? Text.max16) linkPort
  let role ← orDefault none (Tree.optional? Tree.text?) role
  let password ← orDefault none (Tree.optional? Tree.text?) password
  let encrypted ← orDefault false Tree.flag? encrypted
  return ⟨id, host, port, directories, linkHost, linkPort, role, password, encrypted⟩

/-- Reads a configuration. -/
def ofTree? (t : Tree) : Option Configuration := do
  let [service, probes, single, several] ←
    t.section? ["sidecar", "healthcheck", "cassandra", "cassandra_instances"] | none
  let service ← orDefault ServiceSection.standard readService service
  let probes ← orDefault ProbeSection.standard readProbes probes
  let single ← orDefault none (Tree.optional? readNode) single
  let several ← orDefault [] (Tree.list? readNode) several
  return ⟨service, probes, single, several⟩

/-- Reads a configuration from JSON. -/
def ofJson (j : Json) : Except Fault Configuration :=
  match ofTree? (.ofJson j) with
  | some c => .ok c
  | none => .error (.malformedJson "not a configuration")

/-- Reads a configuration from YAML and checks that it can be used. -/
def ofYaml (text : String) : Except Fault Configuration :=
  match (Yaml.Node.parse? text).bind fun n => ofTree? (.ofYaml n) with
  | some c => c.validate
  | none => .error (.malformedYaml "not a configuration")

/-- Reads a configuration from the octets of a file, if there is one, and
checks that it can be used. -/
def ofFile (path : String) : Option Text.Octets → Except Fault Configuration
  | none => .error (.configuration s!"unable to read {path}: no such file")
  | some octets =>
    match Text.decodeUtf8 octets with
    | .ok cs => ofYaml (String.ofList cs)
    | .error flaw => .error (.configuration ("unable to read " ++ path ++ ": " ++ flaw.message))

end NodeSidecar.Configuration
