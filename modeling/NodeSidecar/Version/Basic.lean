import NodeSidecar.Text.Decimal
/-!
# Version — release versions

A release version is three numbers and, before the final release, a
qualifier such as `beta4`. This file holds the type and its text.
-/

namespace NodeSidecar

/-- A release version, as a node reports it. -/
structure Version where
  /-- The number that changes with incompatible releases. -/
  major : Nat
  /-- The number that changes with features. -/
  minor : Nat
  /-- The number that changes with repairs. -/
  patch : Nat
  /-- What marks a build before the final release, if it is one. -/
  qualifier : Option String
  deriving DecidableEq, Repr

namespace Version

/-- The final release with these numbers. -/
def release (major minor patch : Nat) : Version :=
  ⟨major, minor, patch, none⟩

/-- A build before the final release. -/
def isPreRelease (v : Version) : Bool :=
  v.qualifier.isSome

/-- The text of a version, as characters: the three numbers with points
between them, then a hyphen and the qualifier if there is one. -/
def chars (v : Version) : List Char :=
  Text.decimal v.major ++ '.' :: Text.decimal v.minor ++ '.' :: Text.decimal v.patch ++
    match v.qualifier with
    | none => []
    | some q => '-' :: q.toList

/-- The text of a version. -/
def display (v : Version) : String :=
  String.ofList v.chars

instance : ToString Version :=
  ⟨display⟩

end Version

end NodeSidecar
