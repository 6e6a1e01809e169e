import NodeSidecar.Management.Interface
import NodeSidecar.Management.ObjectName
import NodeSidecar.Management.Value
/-!
# Management — proxies

A proxy stands for one managed object behind one interface. A use of it is
checked here, before anything is sent: what comes out is either a fault or
the one request that the method stands for.
-/

namespace NodeSidecar.Management

/-- What is asked of a managed object. -/
inductive Request where
  /-- The value of an attribute. -/
  | read (object : ObjectName) (name : String)
  /-- The result of an operation. -/
  | invoke (object : ObjectName) (operation : String) (signature : List String)
    (arguments : List Value)

/-- A managed object behind an interface. -/
structure Proxy where
  /-- The object. -/
  object : ObjectName
  /-- The interface. -/
  interface : Interface

namespace Proxy

/-- The proxy for the object of a name; the name is checked before the
interface. -/
def bind (name : String) (d : Declaration) : Except Fault Proxy :=
  match ObjectName.parse name with
  | .error fault => .error fault
  | .ok object =>
    match d.resolve with
    | .error fault => .error fault
    | .ok interface => .ok ⟨object, interface⟩

/-- The request that reads the attribute behind a method. -/
def get (p : Proxy) (method : String) : Except Fault Request :=
  match p.interface.member method with
  | .error fault => .error fault
  | .ok m =>
    match m.access with
    | .attributeRead => .ok (.read p.object m.remote)
    | .operation _ => .error (.internal s!"{p.interface.name}.{method} is an operation")

/-- The request that invokes the operation behind a method. -/
def call (p : Proxy) (method : String) (arguments : List Value) : Except Fault Request :=
  match p.interface.member method with
  | .error fault => .error fault
  | .ok m =>
    if arguments.length ≠ m.arity then
      .error (.internal
        s!"{p.interface.name}.{method} takes {m.arity} arguments, got {arguments.length}")
    else
      match m.access with
      | .operation signature => .ok (.invoke p.object m.remote signature arguments)
      | .attributeRead => .error (.internal s!"{m.remote} is an attribute, not an operation")

/-- The name of the attribute or operation behind a method. -/
def remoteName (p : Proxy) (method : String) : String :=
  match p.interface.member method with
  | .ok m => m.remote
  | .error _ => "?"

/-- The text that a method answered. -/
def expectText (p : Proxy) (method : String) (v : Value) : Except Fault String :=
  match v with
  | .text s => .ok s
  | other =>
    .error (.remoteInvocation p.object.text (p.remoteName method)
      s!"expected string, got {other.kind}")

end Proxy

/-- A use that is made of a proxy. -/
inductive Use where
  /-- The attribute behind a method is read. -/
  | get (method : String)
  /-- The operation behind a method is invoked. -/
  | call (method : String) (arguments : List Value)

namespace Use

/-- The method that is used. -/
def method : Use → String
  | get method => method
  | call method _ => method

/-- The request that comes of it, or why there is none. -/
def request (p : Proxy) : Use → Except Fault Request
  | get method => p.get method
  | call method arguments => p.call method arguments

end Use

end NodeSidecar.Management
