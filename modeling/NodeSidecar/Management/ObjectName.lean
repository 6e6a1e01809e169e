import NodeSidecar.Fault
import NodeSidecar.Text.Split
/-!
# Management — object names

A managed object is addressed by a domain and key properties, written
`domain:key=value,key=value`. A name is checked once, when it is parsed; what is
asked of it later is looked for in its text.
-/

namespace NodeSidecar.Management

/-- The name of a managed object. The text is kept as it was written. -/
structure ObjectName where
  /-- The whole name. -/
  text : String
  /-- How many characters stand before the first colon. -/
  domainLength : Nat
  deriving DecidableEq, Repr

namespace ObjectName

/-- A key property: a key and a value, neither of them empty, around the
first equals sign. -/
def property? (cs : List Char) : Option (String × String) :=
  match Text.cutAt '=' cs with
  | some (k :: ks, v :: vs) => some (String.ofList (k :: ks), String.ofList (v :: vs))
  | _ => none

/-- The fault of a name that cannot be used. -/
def invalid (text reason : String) : Fault :=
  .invalidObjectName (text ++ ": " ++ reason)

/-- The object name that a text spells. -/
def parse (text : String) : Except Fault ObjectName :=
  match Text.cutAt ':' text.toList with
  | none => .error (invalid text "missing ':' between domain and properties")
  | some (domain, properties) =>
    if domain.isEmpty then .error (invalid text "empty domain")
    else if properties.isEmpty then .error (invalid text "no key properties")
    else
      match (Text.pieces ',' properties).mapM property? with
      | none => .error (invalid text "key properties must be key=value")
      | some _ => .ok ⟨text, domain.length⟩

/-- What stands before the first colon. -/
def domain (name : ObjectName) : String :=
  String.ofList (name.text.toList.take name.domainLength)

/-- The key properties, in order. The text behind the domain is taken apart anew. -/
def properties (name : ObjectName) : List (String × String) :=
  ((Text.pieces ',' (name.text.toList.drop (name.domainLength + 1))).filterMap
    (Text.cutAt '=')).map fun p => (String.ofList p.1, String.ofList p.2)

/-- The value of the first key property with this key. -/
def property (name : ObjectName) (key : String) : Option String :=
  (name.properties.find? (·.1 = key)).map (·.2)

end ObjectName

end NodeSidecar.Management
