import NodeSidecar.Fault
import NodeSidecar.Text.Blank
import NodeSidecar.Text.Split
import NodeSidecar.Version.Basic
/-!
# Version — reading release versions

A version text, without the blanks around it, is a core of two or three
numbers, then perhaps a hyphen and a qualifier, then perhaps a plus sign and
build metadata. The build metadata is cut off first, so a hyphen in it starts
no qualifier, and is then forgotten.
-/

namespace NodeSidecar.Version

/-- A character that a qualifier may hold. -/
def isQualifierChar (c : Char) : Bool :=
  c.isAlphanum || c = '.' || c = '_' || c = '-'

/-- A text that can be a qualifier. -/
def isQualifier (cs : List Char) : Bool :=
  !cs.isEmpty && cs.all isQualifierChar

/-- What is left when build metadata is cut off. A plus sign with nothing
after it is refused. -/
def withoutBuild (cs : List Char) : Option (List Char) :=
  match Text.cutAt '+' cs with
  | none => some cs
  | some (_, []) => none
  | some (head, _ :: _) => some head

/-- The core and the qualifier of a text without build metadata. -/
def withoutQualifier (cs : List Char) : Option (List Char × Option String) :=
  match Text.cutAt '-' cs with
  | none => some (cs, none)
  | some (core, qualifier) =>
    if isQualifier qualifier then some (core, some (String.ofList qualifier)) else none

/-- One number of the core. -/
def component? (cs : List Char) : Option Nat :=
  Text.digits? Text.max32 cs

/-- The numbers of a core; a missing third number is zero. -/
def core? (cs : List Char) : Option (Nat × Nat × Nat) :=
  match Text.pieces '.' cs with
  | [a, b] => do
    let major ← component? a
    let minor ← component? b
    return (major, minor, 0)
  | [a, b, c] => do
    let major ← component? a
    let minor ← component? b
    let patch ← component? c
    return (major, minor, patch)
  | _ => none

/-- The version that a text without blanks around it spells. -/
def ofChars? (cs : List Char) : Option Version := do
  let unbuilt ← withoutBuild cs
  let (core, qualifier) ← withoutQualifier unbuilt
  let (major, minor, patch) ← core? core
  return ⟨major, minor, patch, qualifier⟩

/-- The version that a text spells. A text that spells none is quoted in the
fault as it came. -/
def parse (text : String) : Except Fault Version :=
  match ofChars? (Text.trim text.toList) with
  | some v => .ok v
  | none => .error (.malformedVersion text)

end NodeSidecar.Version
