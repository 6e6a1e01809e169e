import NodeSidecar.CommandLine
import NodeSidecar.Configuration.Read
import NodeSidecar.Program
/-!
# The program

Reads its options and its configuration, and tells which nodes it is set up to
manage and where it is set up to listen. A configuration that cannot be used
ends it.
-/

namespace NodeSidecar

/-- How the program is used. -/
def usage : String :=
  s!"Usage: {Program.name} [--config CONFIG] [--host HOST] [--port PORT] " ++
    "[--log-level LOG_LEVEL] [--log-json]"

/-- A line on one managed node. -/
def nodeLine (m : Managed) : String :=
  s!"instance {m.id}: {m.queryEndpoint}, managed at {m.link.endpoint}"

/-- The lines on a program that is set up. -/
def daemonLines (d : Daemon) : List String :=
  s!"{Program.name} {Program.version} on {d.server.address.display}" :: d.roster.toList.map nodeLine

/-- Sets the program up and writes what came of it. -/
def runWith (o : CommandLine.Options) : IO UInt32 := do
  let octets ← try pure (some (← IO.FS.readBinFile o.path).toList) catch _ => pure none
  match (Configuration.ofFile o.path octets).bind o.daemon with
  | .error fault =>
    IO.eprintln s!"Error: {fault.message}"
    return 1
  | .ok daemon =>
    (o.log (daemonLines daemon)).forM IO.println
    return 0

end NodeSidecar

/-- The command line of the program. -/
def main (arguments : List String) : IO UInt32 := do
  let names := NodeSidecar.CommandLine.jsonLog :: NodeSidecar.CommandLine.valued
  let environment ← names.mapM fun n => return (n.2, ← IO.getEnv n.2)
  match NodeSidecar.CommandLine.read (fun name => (environment.lookup name).join) arguments with
  | .error flaw =>
    IO.eprintln s!"error: {flaw.message}"
    IO.eprintln NodeSidecar.usage
    return 2
  | .ok .help =>
    IO.println NodeSidecar.usage
    return 0
  | .ok .version =>
    IO.println s!"{NodeSidecar.Program.name} {NodeSidecar.Program.version}"
    return 0
  | .ok (.run options) => NodeSidecar.runWith options
