import NodeSidecar.Fault
/-!
# Management — interfaces

An interface says, method by method, which attribute or operation of a
managed object answers it. A declaration is checked once, when it is
resolved; after that every method has exactly one member.
-/

namespace NodeSidecar.Management

/-- How a method reaches the managed object. -/
inductive Access where
  /-- By reading the attribute. -/
  | attributeRead
  /-- By invoking the operation with parameters of these types. -/
  | operation (signature : List String)
  deriving DecidableEq, Repr

/-- One method of an interface. -/
structure Member where
  /-- The name callers use. -/
  method : String
  /-- The name of the attribute or operation. -/
  remote : String
  /-- How the object is reached. -/
  access : Access
  deriving DecidableEq, Repr

/-- How many arguments a method takes. -/
def Member.arity (m : Member) : Nat :=
  match m.access with
  | .attributeRead => 0
  | .operation signature => signature.length

/-- An interface as it is declared. -/
structure Declaration where
  /-- The interface's name. -/
  name : String
  /-- Its methods, in order. -/
  members : List Member
  deriving DecidableEq, Repr

/-- An interface whose every method is known to be sound and declared once. -/
structure Interface where
  /-- The interface's name. -/
  name : String
  /-- Its methods. -/
  members : List Member
  deriving DecidableEq, Repr

namespace Declaration

/-- What is wrong with a member that follows `earlier` ones: it has no name,
or a parameter without a type, or a name that is taken. -/
def flaw? (name : String) (earlier : List Member) (m : Member) : Option Fault :=
  if m.method.isEmpty || m.remote.isEmpty then
    some (.internal s!"interface {name} declares a member without a name")
  else
    match m.access with
    | .operation signature =>
      if signature.any String.isEmpty then
        some (.internal s!"{name}.{m.method} has an empty parameter type")
      else if earlier.any (·.method = m.method) then
        some (.internal s!"interface {name} declares {m.method} twice")
      else none
    | .attributeRead =>
      if earlier.any (·.method = m.method) then
        some (.internal s!"interface {name} declares {m.method} twice")
      else none

/-- The first flaw among members that follow `earlier` ones. -/
def firstFlaw? (name : String) : (earlier members : List Member) → Option Fault
  | _, [] => none
  | earlier, m :: rest =>
    match flaw? name earlier m with
    | some fault => some fault
    | none => firstFlaw? name (earlier ++ [m]) rest

/-- The interface of a declaration without flaws. -/
def resolve (d : Declaration) : Except Fault Interface :=
  match firstFlaw? d.name [] d.members with
  | some fault => .error fault
  | none => .ok ⟨d.name, d.members⟩

end Declaration

/-- The member behind a method. -/
def Interface.member (i : Interface) (method : String) : Except Fault Member :=
  match i.members.find? (·.method = method) with
  | some m => .ok m
  | none => .error (.internal s!"{i.name} has no method {method}")

end NodeSidecar.Management
