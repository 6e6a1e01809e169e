/-!
# Program — its name and version
-/

namespace NodeSidecar.Program

/-- The name of the program. -/
def name : String := "cassandra-sidecar"

/-- Its version. -/
def version : String := "0.1.0"

end NodeSidecar.Program
