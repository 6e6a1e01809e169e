import NodeSidecar.Version.Basic
/-!
# Version — the order of releases

Versions are ordered by their three numbers; among versions with the same
numbers, a build before the final release precedes it, and two such builds
are ordered by their qualifiers. A qualifier is compared run by run: runs of
digits by the number they denote, other runs as text, a run of digits before
a run of text. Qualifiers that this leaves level (`rc1`, `rc01`) are ordered
as text, so that only equal versions are level.
-/

namespace NodeSidecar.Version

/-- How far a walk over a text has come: the pieces that were cut off, and the
index at which the piece that the walk is in begins. -/
structure Walk (α : Type) where
  cut : List (List α)
  start : Nat

section

variable {α : Type} (digit : α → Bool) (xs : List α)

/-- The walk comes to an index, and where digits begin or end it cuts off what
lies behind it. -/
def Walk.pass (w : Walk α) (i : Nat) : Walk α :=
  if xs[i]?.map digit = xs[i - 1]?.map digit then w
  else ⟨w.cut ++ [(xs.take i).drop w.start], i⟩

/-- The pieces when the walk has come to the end; what is left is one of them. -/
def Walk.finish (w : Walk α) : List (List α) :=
  if w.start < xs.length then w.cut ++ [xs.drop w.start] else w.cut

/-- The pieces of a text, from a walk over all but its first place. -/
def walk : List (List α) :=
  ((List.range' 1 (xs.length - 1)).foldl (Walk.pass digit xs) ⟨[], 0⟩).finish xs

end

/-- A text as alternating runs of digits and of other characters. -/
def runs (cs : List Char) : List (List Char) :=
  walk Char.isDigit cs

/-- The order of texts by code point, a text before its continuations. -/
def compareText : List Char → List Char → Ordering
  | [], [] => .eq
  | [], _ :: _ => .lt
  | _ :: _, [] => .gt
  | a :: as, b :: bs => (compare a.toNat b.toNat).then (compareText as bs)

/-- A run without its leading zeros. -/
def significant (run : List Char) : List Char :=
  run.dropWhile (· = '0')

/-- The order of two runs of digits by the numbers they denote, however long:
without leading zeros the longer one is the larger, and among runs of one
length the order is that of text. -/
def compareDigits (a b : List Char) : Ordering :=
  (compare (significant a).length (significant b).length).then
    (compareText (significant a) (significant b))

/-- The order of two runs. -/
def compareRun (a b : List Char) : Ordering :=
  match a.all Char.isDigit, b.all Char.isDigit with
  | true, true => compareDigits a b
  | true, false => .lt
  | false, true => .gt
  | false, false => compareText a b

/-- The order of two lists of runs: the first pair that differs decides, then
the number of runs. -/
def compareRuns : List (List Char) → List (List Char) → Ordering
  | [], [] => .eq
  | [], _ :: _ => .lt
  | _ :: _, [] => .gt
  | a :: as, b :: bs => (compareRun a b).then (compareRuns as bs)

/-- The order of two qualifiers. -/
def compareQualifier (a b : String) : Ordering :=
  (compareRuns (runs a.toList) (runs b.toList)).then (compareText a.toList b.toList)

/-- The order of two versions by their three numbers alone. -/
def compareRelease (a b : Version) : Ordering :=
  (compare a.major b.major).then ((compare a.minor b.minor).then (compare a.patch b.patch))

/-- The order of versions with the same numbers. -/
def comparePreRelease : Option String → Option String → Ordering
  | none, none => .eq
  | none, some _ => .gt
  | some _, none => .lt
  | some a, some b => compareQualifier a b

/-- The order of versions. -/
def order (a b : Version) : Ordering :=
  (compareRelease a b).then (comparePreRelease a.qualifier b.qualifier)

instance : Ord Version :=
  ⟨order⟩

/-- The order of versions, for who asks whether there is one: any two versions
can be compared. -/
def order? (a b : Version) : Option Ordering :=
  some (order a b)

/-- Puts versions in order, from the lowest; versions that are level keep
their places. -/
def sort (versions : List Version) : List Version :=
  versions.mergeSort fun a b => (order a b).isLE

end NodeSidecar.Version
