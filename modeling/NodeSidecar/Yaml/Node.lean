import NodeSidecar.Yaml.Token
/-!
# YAML — nodes

The one document of a YAML text, as a tree of scalars, sequences and mappings.
What is left out is an empty plain scalar; so is the whole document of a text
without tokens.
-/

namespace NodeSidecar.Yaml

/-- A node of a document. -/
inductive Node where
  /-- A scalar, plain or quoted. -/
  | scalar (text : String) (plain : Bool)
  /-- Items. -/
  | sequence (items : List Node)
  /-- Pairs. -/
  | mapping (pairs : List (Node × Node))
  deriving Inhabited

namespace Node

/-- What stands where a node is left out. -/
def empty : Node :=
  .scalar "" true

/-- A reading: the node and the tokens behind it. -/
abbrev Reading := Option (Node × List Token)

/-- Whether one of these tokens is next. -/
def isNext (stops : List Token) (ts : List Token) : Bool :=
  match ts with
  | t :: _ => t ∈ stops
  | [] => false

/-- Puts a pair in front of the pairs that were read. -/
def pairThen (key value : Node) (more : Option (List (Node × Node) × List Token)) :
    Option (List (Node × Node) × List Token) :=
  more.map fun (pairs, ts) => ((key, value) :: pairs, ts)

/-- Puts an item in front of the items that were read. -/
def itemThen (item : Node) (more : Option (List Node × List Token)) :
    Option (List Node × List Token) :=
  more.map fun (items, ts) => (item :: items, ts)

mutual

/-- Reads a node. Blocks are read where `block` says so, and items without a
block of their own where `loose` says so. -/
def read (turns : Nat) (block loose : Bool) (ts : List Token) : Reading :=
  match turns with
  | 0 => none
  | turns + 1 =>
    match ts with
    | .scalar text plain :: ts => some (.scalar text plain, ts)
    | .flowSequence :: ts => (readFlowItems turns true ts).map fun (items, ts) => (.sequence items, ts)
    | .flowMapping :: ts => (readFlowPairs turns true ts).map fun (pairs, ts) => (.mapping pairs, ts)
    | .blockSequence :: ts =>
      if block then (readItems turns ts).map fun (items, ts) => (.sequence items, ts) else none
    | .blockMapping :: ts =>
      if block then (readPairs turns ts).map fun (pairs, ts) => (.mapping pairs, ts) else none
    | .item :: _ =>
      if loose then (readLooseItems turns ts).map fun (items, ts) => (.sequence items, ts)
      else none
    | _ => none

/-- Reads a node that is left out where one of these tokens is next. -/
def readUnless (turns : Nat) (stops : List Token) (block loose : Bool) (ts : List Token) :
    Reading :=
  match turns with
  | 0 => none
  | turns + 1 => if isNext stops ts then some (empty, ts) else read turns block loose ts

/-- Reads the items of a block. -/
def readItems (turns : Nat) (ts : List Token) : Option (List Node × List Token) :=
  match turns with
  | 0 => none
  | turns + 1 =>
    match ts with
    | .item :: ts =>
      match readUnless turns [.item, .blockEnd] true false ts with
      | some (item, ts) => itemThen item (readItems turns ts)
      | none => none
    | .blockEnd :: ts => some ([], ts)
    | _ => none

/-- Reads items without a block of their own. -/
def readLooseItems (turns : Nat) (ts : List Token) : Option (List Node × List Token) :=
  match turns with
  | 0 => none
  | turns + 1 =>
    match ts with
    | .item :: ts =>
      match readUnless turns [.item, .key, .value, .blockEnd] true false ts with
      | some (item, ts) => itemThen item (readLooseItems turns ts)
      | none => none
    | ts => some ([], ts)

/-- Reads the value of a pair of a block, if there is one. -/
def readBlockValue (turns : Nat) (ts : List Token) : Reading :=
  match turns with
  | 0 => none
  | turns + 1 =>
    match ts with
    | .value :: ts => readUnless turns [.key, .value, .blockEnd] true true ts
    | ts => some (empty, ts)

/-- Reads the pairs of a block. -/
def readPairs (turns : Nat) (ts : List Token) : Option (List (Node × Node) × List Token) :=
  match turns with
  | 0 => none
  | turns + 1 =>
    match ts with
    | .key :: ts =>
      match readUnless turns [.key, .value, .blockEnd] true true ts with
      | none => none
      | some (key, ts) =>
        match readBlockValue turns ts with
        | none => none
        | some (value, ts) => pairThen key value (readPairs turns ts)
    | .blockEnd :: ts => some ([], ts)
    | _ => none

/-- Reads the value of a single pair among items in brackets. -/
def readSingleValue (turns : Nat) (ts : List Token) : Reading :=
  match turns with
  | 0 => none
  | turns + 1 =>
    match ts with
    | .value :: ts => readUnless turns [.comma, .flowSequenceEnd] false false ts
    | ts => some (empty, ts)

/-- Reads a single pair among items in brackets. Where its key is left out, the
token in its place is passed over. -/
def readSinglePair (turns : Nat) (ts : List Token) : Reading :=
  match turns with
  | 0 => none
  | turns + 1 =>
    let key :=
      if isNext [.value, .comma, .flowSequenceEnd] ts then some (empty, ts.drop 1)
      else read turns false false ts
    match key with
    | none => none
    | some (key, ts) =>
      (readSingleValue turns ts).map fun (value, ts) => (.mapping [(key, value)], ts)

/-- Reads items in brackets; all but the first one follow a comma. -/
def readFlowItems (turns : Nat) (isFirst : Bool) (ts : List Token) :
    Option (List Node × List Token) :=
  match turns with
  | 0 => none
  | turns + 1 =>
    match ts with
    | .flowSequenceEnd :: ts => some ([], ts)
    | ts =>
      if !isFirst && !isNext [.comma] ts then none
      else
        match if isFirst then ts else ts.drop 1 with
        | .key :: ts =>
          match readSinglePair turns ts with
          | some (item, ts) => itemThen item (readFlowItems turns false ts)
          | none => none
        | .flowSequenceEnd :: ts => some ([], ts)
        | ts =>
          match read turns false false ts with
          | some (item, ts) => itemThen item (readFlowItems turns false ts)
          | none => none

/-- Reads the value of a pair in braces, if there is one. -/
def readFlowValue (turns : Nat) (ts : List Token) : Reading :=
  match turns with
  | 0 => none
  | turns + 1 =>
    match ts with
    | .value :: ts => readUnless turns [.comma, .flowMappingEnd] false false ts
    | ts => some (empty, ts)

/-- Reads pairs in braces; all but the first one follow a comma. What is not
marked as a key has no value. -/
def readFlowPairs (turns : Nat) (isFirst : Bool) (ts : List Token) :
    Option (List (Node × Node) × List Token) :=
  match turns with
  | 0 => none
  | turns + 1 =>
    match ts with
    | .flowMappingEnd :: ts => some ([], ts)
    | ts =>
      if !isFirst && !isNext [.comma] ts then none
      else
        match if isFirst then ts else ts.drop 1 with
        | .key :: ts =>
          match readUnless turns [.value, .comma, .flowMappingEnd] false false ts with
          | none => none
          | some (key, ts) =>
            match readFlowValue turns ts with
            | none => none
            | some (value, ts) => pairThen key value (readFlowPairs turns false ts)
        | .flowMappingEnd :: ts => some ([], ts)
        | ts =>
          match read turns false false ts with
          | some (key, ts) => pairThen key empty (readFlowPairs turns false ts)
          | none => none

end

/-- The node of the one document that tokens spell. Its beginning and its end
may be marked. -/
def ofTokens? (ts : List Token) : Option Node :=
  let turns := 4 * ts.length + 4
  let reading :=
    match ts with
    | [] => some (empty, [])
    | .documentStart :: ts =>
      if ts.isEmpty || isNext [.documentStart, .documentEnd] ts then some (empty, ts)
      else read turns true false ts
    | ts => read turns true false ts
  match reading with
  | some (node, ts) => if ts.all (· = .documentEnd) then some node else none
  | none => none

/-- The node of the one document of a text. -/
def parse? (text : String) : Option Node :=
  (tokens? text).bind ofTokens?

end Node

end NodeSidecar.Yaml
