import NodeSidecar.Fault
import NodeSidecar.Version.Order
/-!
# Catalog — which adapter serves which release

A catalog holds the factories of adapters, ordered by the lowest release each
serves. A release is served by the factory with the highest minimum not above
it. Qualifiers play no part: a beta of 4.0 is served like 4.0.
-/

namespace NodeSidecar

/-- What builds the adapters for releases from a minimum on. -/
structure Factory where
  /-- The factory's name. -/
  name : String
  /-- The lowest release it serves. -/
  minimum : Version
  deriving DecidableEq, Repr

/-- The factories, ordered by minimum. -/
structure Catalog where
  /-- The factories, the one with the lowest minimum first. -/
  factories : List Factory
  deriving DecidableEq, Repr

namespace Catalog

/-- The factory of the adapter for 4.0 and later. -/
def factory40 : Factory :=
  ⟨"cassandra-4.0", Version.release 4 0 0⟩

/-- The catalog that ships. -/
def standard : Catalog :=
  ⟨[factory40]⟩

/-- The first two neighbours with the same minimum. -/
def sharedMinimum? : List Factory → Option (Factory × Factory)
  | a :: b :: rest =>
    if (Version.compareRelease a.minimum b.minimum).isEq then some (a, b)
    else sharedMinimum? (b :: rest)
  | _ => none

/-- Orders factories by minimum; those with one minimum keep their places. -/
def sortFactories (factories : List Factory) : List Factory :=
  factories.mergeSort fun a b => (Version.compareRelease a.minimum b.minimum).isLE

/-- The catalog of these factories. There must be one, and no two may have
the same minimum. -/
def ofFactories (factories : List Factory) : Except Fault Catalog :=
  if factories.isEmpty then
    .error (.configuration "at least one adapter factory must be registered")
  else
    let sorted := sortFactories factories
    match sharedMinimum? sorted with
    | some (a, b) =>
      .error (.configuration
        s!"factories {a.name} and {b.name} share minimum version {a.minimum.display}")
    | none => .ok ⟨sorted⟩

/-- The factory that serves a release: the last one whose minimum is not
above it. -/
def resolve (catalog : Catalog) (v : Version) : Except Fault Factory :=
  match catalog.factories.reverse.find? fun f => (Version.compareRelease f.minimum v).isLE with
  | some f => .ok f
  | none => .error (.unsupportedVersion v.display)

/-- The minimums of the factories, from the lowest. -/
def supported (catalog : Catalog) : List Version :=
  catalog.factories.map (·.minimum)

end Catalog

end NodeSidecar
