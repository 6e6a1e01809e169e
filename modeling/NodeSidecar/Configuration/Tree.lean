import NodeSidecar.Json.Basic
import NodeSidecar.Text.Decimal
import NodeSidecar.Yaml.Node
/-!
# Configuration — documents

A configuration is read from a document, in JSON or in YAML. Both become the
same tree of leaves, items and fields. A leaf says what it may be read as: in
JSON that is one kind of thing, while a plain scalar in YAML may be read as a
text and as a number alike. Items in JSON may also be read as a section whose
names are left out, items in YAML only as a list.
-/

namespace NodeSidecar.Configuration

/-- A leaf, and what it may be read as. -/
structure Leaf where
  /-- As a text. -/
  text : Option String
  /-- As a number. -/
  number : Option Nat
  /-- As true or false. -/
  flag : Option Bool
  /-- As nothing, where something may be left out. -/
  isNothing : Bool
  /-- As a section or a list that was left empty. -/
  isEmpty : Bool
  deriving DecidableEq, Repr

namespace Leaf

/-- A leaf that is a text and nothing else. -/
def ofText (s : String) : Leaf :=
  ⟨some s, none, none, false, false⟩

/-- A leaf that is a number and nothing else. -/
def ofNumber (n : Nat) : Leaf :=
  ⟨none, some n, none, false, false⟩

/-- A leaf that is true or false and nothing else. -/
def ofFlag (b : Bool) : Leaf :=
  ⟨none, none, some b, false, false⟩

/-- A leaf that is nothing. -/
def nothing : Leaf :=
  ⟨none, none, none, true, false⟩

/-- A leaf that cannot be read as anything. -/
def unreadable : Leaf :=
  ⟨none, none, none, false, false⟩

/-- The digits of a number after its sign, in the base that they say. A run of
decimal digits that begins with a zero is no number. -/
def digits? : List Char → Option Nat
  | '0' :: 'x' :: cs => Text.digitsIn? 16 Text.max64 cs
  | '0' :: 'o' :: cs => Text.digitsIn? 8 Text.max64 cs
  | '0' :: 'b' :: cs => Text.digitsIn? 2 Text.max64 cs
  | '0' :: _ :: _ => none
  | cs => Text.digits? Text.max64 cs

/-- The number that a plain scalar spells; a plus sign may precede it. -/
def number? : List Char → Option Nat
  | '+' :: cs => digits? cs
  | cs => digits? cs

/-- The truth value that a plain scalar spells. -/
def flag? (s : String) : Option Bool :=
  if s ∈ ["true", "True", "TRUE"] then some true
  else if s ∈ ["false", "False", "FALSE"] then some false
  else none

/-- The leaf of a plain scalar. -/
def ofPlain (s : String) : Leaf where
  text := some s
  number := number? s.toList
  flag := flag? s
  isNothing := s ∈ ["", "~", "null", "Null", "NULL"]
  isEmpty := s = ""

end Leaf

/-- A document. A field whose name is no text has none. -/
inductive Tree where
  /-- A leaf. -/
  | leaf (l : Leaf)
  /-- Items in a row; `nameless` says that they may be a section. -/
  | items (nameless : Bool) (trees : List Tree)
  /-- Fields with names. -/
  | fields (entries : List (Option String × Tree))

namespace Tree

mutual

/-- The tree of a JSON value. -/
def ofJson : Json → Tree
  | .null => leaf .nothing
  | .bool b => leaf (.ofFlag b)
  | .number (.whole n) => if n < 0 then leaf .unreadable else leaf (.ofNumber n.toNat)
  | .number (.double _) => leaf .unreadable
  | .string s => leaf (.ofText s)
  | .array values => items true (ofJsonItems values)
  | .object entries => fields (ofJsonFields entries)

/-- The trees of the items of an array. -/
def ofJsonItems : List Json → List Tree
  | [] => []
  | j :: rest => ofJson j :: ofJsonItems rest

/-- The trees of the fields of an object. -/
def ofJsonFields : List (String × Json) → List (Option String × Tree)
  | [] => []
  | (name, j) :: rest => (some name, ofJson j) :: ofJsonFields rest

end

/-- The name that a node in front of a value stands for. -/
def nameOf? : Yaml.Node → Option String
  | .scalar text _ => some text
  | _ => none

mutual

/-- The tree of a YAML node. -/
def ofYaml : Yaml.Node → Tree
  | .scalar text plain => leaf (if plain then .ofPlain text else .ofText text)
  | .sequence nodes => items false (ofYamlItems nodes)
  | .mapping pairs => fields (ofYamlFields pairs)

/-- The trees of the nodes of a sequence. -/
def ofYamlItems : List Yaml.Node → List Tree
  | [] => []
  | n :: rest => ofYaml n :: ofYamlItems rest

/-- The trees of the pairs of a mapping. -/
def ofYamlFields : List (Yaml.Node × Yaml.Node) → List (Option String × Tree)
  | [] => []
  | (name, n) :: rest => (nameOf? name, ofYaml n) :: ofYamlFields rest

end

/-! ## What a tree may be read as -/

/-- The leaf, if the tree is one. -/
def leaf? : Tree → Option Leaf
  | leaf l => some l
  | _ => none

/-- A text. -/
def text? (t : Tree) : Option String :=
  t.leaf?.bind (·.text)

/-- A number, at most `top`. -/
def number? (top : Nat) (t : Tree) : Option Nat :=
  (t.leaf?.bind (·.number)).filter (· ≤ top)

/-- True or false. -/
def flag? (t : Tree) : Option Bool :=
  t.leaf?.bind (·.flag)

/-- Something that may be left out. -/
def optional? {α : Type} (read : Tree → Option α) (t : Tree) : Option (Option α) :=
  match t with
  | leaf l => if l.isNothing then some none else (read t).map some
  | _ => (read t).map some

/-- A list. -/
def list? {α : Type} (read : Tree → Option α) : Tree → Option (List α)
  | items _ trees => trees.mapM read
  | leaf l => if l.isEmpty then some [] else none
  | fields _ => none

/-- What fields give for a name; none may be given twice. -/
def given? (entries : List (Option String × Tree)) (name : String) : Option (Option Tree) :=
  match entries.filter (·.1 = some name) with
  | [] => some none
  | [e] => some (some e.2)
  | _ => none

/-- What a section gives for each of these names. In a section whose names are
left out the items are in the order of the names, and the last ones may be
missing. -/
def section? (names : List String) : Tree → Option (List (Option Tree))
  | leaf l => if l.isEmpty then some (names.map fun _ => none) else none
  | items nameless trees =>
    if nameless && trees.length ≤ names.length then
      some (trees.map some ++ List.replicate (names.length - trees.length) none)
    else none
  | fields entries =>
    if entries.any (·.1.isNone) then none else names.mapM (given? entries)

end Tree

/-- What is read from a tree, or a default where nothing is given. -/
def orDefault {α : Type} (default : α) (read : Tree → Option α) : Option Tree → Option α
  | none => some default
  | some t => read t

end NodeSidecar.Configuration
