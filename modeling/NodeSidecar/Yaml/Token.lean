import NodeSidecar.Yaml.Scalar
/-!
# YAML — tokens

The tokens of a YAML text. Indentation opens and closes blocks, so some tokens
stand for no character. A key is known as one only by the colon behind it: the
place where it may have begun is remembered until then, and the tokens that
open the key are put in there.
-/

namespace NodeSidecar.Yaml

/-- A token. -/
inductive Token where
  /-- The mark of the beginning of a document. -/
  | documentStart
  /-- The mark of the end of a document. -/
  | documentEnd
  /-- A block of items begins. -/
  | blockSequence
  /-- A block of pairs begins. -/
  | blockMapping
  /-- A block ends. -/
  | blockEnd
  /-- Items in brackets begin. -/
  | flowSequence
  /-- Items in brackets end. -/
  | flowSequenceEnd
  /-- Pairs in braces begin. -/
  | flowMapping
  /-- Pairs in braces end. -/
  | flowMappingEnd
  /-- An item of a block comes next. -/
  | item
  /-- What comes next in brackets or braces. -/
  | comma
  /-- A key comes next. -/
  | key
  /-- A value comes next. -/
  | value
  /-- A scalar. -/
  | scalar (text : String) (plain : Bool)
  deriving DecidableEq, Repr

/-- The place where a key may have begun. -/
structure MaybeKey where
  /-- How many tokens come before it. -/
  number : Nat
  /-- Nothing else may begin there. -/
  required : Bool
  /-- Its place. -/
  place : Placed
  deriving DecidableEq, Repr

/-- A text that is read into tokens. -/
structure Scan where
  /-- What is still to be read. -/
  rest : List Placed
  /-- The tokens so far, the last one first. -/
  tokens : List Token
  /-- How many tokens there are so far. -/
  count : Nat
  /-- The columns of the open blocks, the innermost first. -/
  blocks : List Nat
  /-- A key may begin here. -/
  keyAllowed : Bool
  /-- Where a key may have begun: in the innermost brackets, in those around
  them, and so on; the last one is that outside all brackets. -/
  keys : List (Option MaybeKey)

namespace Scan

/-- The beginning of a text. -/
def ofText (ps : List Placed) : Scan :=
  ⟨ps, [], 0, [], true, [none]⟩

/-- Inside brackets or braces. -/
def inFlow (s : Scan) : Bool :=
  1 < s.keys.length

/-- The least column at which something may go on in the innermost block. -/
def inner (s : Scan) : Nat :=
  match s.blocks with
  | [] => 0
  | column :: _ => column + 1

/-- Adds a token. -/
def push (s : Scan) (t : Token) : Scan :=
  { s with tokens := t :: s.tokens, count := s.count + 1 }

/-- Puts a token in behind the first `number` ones. -/
def insert (s : Scan) (number : Nat) (t : Token) : Scan :=
  let after := s.count - number
  { s with
    tokens := s.tokens.take after ++ t :: s.tokens.drop after
    count := s.count + 1 }

/-- Passes over characters. -/
def skip (s : Scan) (length : Nat) : Scan :=
  { s with rest := s.rest.drop length }

/-- Whether a key may begin here from now on. -/
def allowKey (s : Scan) (b : Bool) : Scan :=
  { s with keyAllowed := b }

/-! ## Blocks -/

/-- Closes the blocks that are indented further than a column. -/
def closeTo (column : Nat) (s : Scan) : Scan :=
  if s.inFlow then s
  else
    let closed := s.blocks.takeWhile (column < ·)
    { s with
      tokens := closed.map (fun _ => Token.blockEnd) ++ s.tokens
      count := s.count + closed.length
      blocks := s.blocks.dropWhile (column < ·) }

/-- Closes all blocks. -/
def closeAll (s : Scan) : Scan :=
  if s.inFlow then s
  else
    { s with
      tokens := s.blocks.map (fun _ => Token.blockEnd) ++ s.tokens
      count := s.count + s.blocks.length
      blocks := [] }

/-- Opens a block at a column, behind the first `number` tokens, unless the
innermost block is indented as far. -/
def openAt (s : Scan) (column number : Nat) (t : Token) : Scan :=
  if s.inFlow || decide (column < s.inner) then s
  else { s.insert number t with blocks := column :: s.blocks }

/-! ## Keys -/

/-- Forgets where a key may have begun; where one must have begun that fails. -/
def forget : Option MaybeKey → Option (Option MaybeKey)
  | some k => if k.required then none else some none
  | none => some none

/-- Forgets a key that ends too far from where it may have begun: on another
line, or more than 1024 octets on. -/
def forgetStale (place : Placed) (k : Option MaybeKey) : Option (Option MaybeKey) :=
  match k with
  | some key =>
    if key.place.line < place.line || key.place.index + 1024 < place.index then forget k
    else some k
  | none => some none

/-- Forgets the innermost place where a key may have begun. -/
def dropKey (s : Scan) : Option Scan :=
  match s.keys with
  | [] => some s
  | k :: rest => (forget k).map fun k => { s with keys := k :: rest }

/-- Remembers that a key may begin here. -/
def noteKey (s : Scan) (place : Placed) : Option Scan :=
  if s.keyAllowed then
    let required := !s.inFlow && decide (s.blocks.head? = some place.column)
    s.dropKey.map fun s => { s with keys := some ⟨s.count, required, place⟩ :: s.keys.drop 1 }
  else some s

/-! ## One token -/

/-- Passes over gaps, comments and breaks, and over a byte order mark that
begins a line. A tab is a gap only where no key may begin; after a break one may
begin again. -/
def gapFrom (inFlow keyAllowed inComment : Bool) : List Placed → List Placed × Bool
  | [] => ([], keyAllowed)
  | p :: rest =>
    if isBreak p.char then gapFrom inFlow (keyAllowed || !inFlow) false rest
    else if inComment then gapFrom inFlow keyAllowed true rest
    else if p.char = ' ' || (p.char = '\t' && (inFlow || !keyAllowed))
        || (p.char = byteOrderMark && p.column = 0) then
      gapFrom inFlow keyAllowed false rest
    else if p.char = '#' then gapFrom inFlow keyAllowed true rest
    else (p :: rest, keyAllowed)

/-- Passes over what stands before the next token. -/
def passGap (s : Scan) : Scan :=
  let (rest, keyAllowed) := gapFrom s.inFlow s.keyAllowed false s.rest
  { s with rest := rest, keyAllowed := keyAllowed }

/-- The mark of a document. -/
def readMark (s : Scan) (t : Token) : Option Scan :=
  s.closeAll.dropKey.map fun s => ((s.allowKey false).skip 3).push t

/-- An opening bracket or brace. -/
def readOpening (s : Scan) (place : Placed) (t : Token) : Option Scan :=
  (s.noteKey place).map fun s =>
    (({ s with keys := none :: s.keys }.allowKey true).skip 1).push t

/-- A closing bracket or brace. -/
def readClosing (s : Scan) (t : Token) : Option Scan :=
  s.dropKey.map fun s =>
    let s := if s.inFlow then { s with keys := s.keys.drop 1 } else s
    ((s.allowKey false).skip 1).push t

/-- A comma. -/
def readComma (s : Scan) : Option Scan :=
  s.dropKey.map fun s => ((s.allowKey true).skip 1).push .comma

/-- A dash in front of an item. -/
def readItem (s : Scan) (place : Placed) : Option Scan :=
  if !s.inFlow && !s.keyAllowed then none
  else
    (s.openAt place.column s.count .blockSequence).dropKey.map fun s =>
      ((s.allowKey true).skip 1).push .item

/-- A question mark in front of a key. -/
def readKey (s : Scan) (place : Placed) : Option Scan :=
  if !s.inFlow && !s.keyAllowed then none
  else
    (s.openAt place.column s.count .blockMapping).dropKey.map fun s =>
      ((s.allowKey (!s.inFlow)).skip 1).push .key

/-- A colon in front of a value. -/
def readValue (s : Scan) (place : Placed) : Option Scan :=
  match s.keys with
  | some k :: rest =>
    let s := (s.insert k.number .key).openAt k.place.column k.number .blockMapping
    some (({ s with keys := none :: rest, keyAllowed := false }.skip 1).push .value)
  | _ =>
    if !s.inFlow && !s.keyAllowed then none
    else
      let s := s.openAt place.column s.count .blockMapping
      some (((s.allowKey (!s.inFlow)).skip 1).push .value)

/-- A quoted scalar. -/
def readQuoted (s : Scan) (place : Placed) : Option Scan := do
  let s ← s.noteKey place
  let (text, rest) ← quoted place.char (s.rest.drop 1)
  return { s with rest := rest, keyAllowed := false }.push (.scalar (String.ofList text) false)

/-- A plain scalar. After a break behind it a key may begin. -/
def readPlain (s : Scan) (place : Placed) : Option Scan := do
  let s ← s.noteKey place
  let (text, broken, rest) ← plain s.inFlow s.inner s.rest
  return { s with rest := rest, keyAllowed := broken }.push (.scalar (String.ofList text) true)

/-- The characters that no plain scalar begins with, unless more follows. -/
def indicators : List Char :=
  ['\t', '-', '?', ':', ',', '[', ']', '\x7b', '\x7d', '#', '&', '*', '!', '|', '>', '\'', '"', '%',
    '@', '\x60']

/-- Whether a plain scalar begins here. -/
def startsPlain (inFlow : Bool) (p : Placed) (rest : List Placed) : Bool :=
  let nextIsGap := match rest with
    | [] => false
    | q :: _ => isGap q.char
  p.char ∉ indicators || (p.char = '-' && !nextIsGap)
    || (!inFlow && (p.char = '?' || p.char = ':') && !startsOpen rest)

/-- Reads the token that begins at a character. Anchors, tags, directives and
block scalars are not read. -/
def readToken (s : Scan) (p : Placed) (rest : List Placed) : Option Scan :=
  let opensValue := s.inFlow || startsOpen rest
  if p.column = 0 && p.char = '%' then none
  else if startsMark '-' (p :: rest) then s.readMark .documentStart
  else if startsMark '.' (p :: rest) then s.readMark .documentEnd
  else if p.char = '[' then s.readOpening p .flowSequence
  else if p.char = '\x7b' then s.readOpening p .flowMapping
  else if p.char = ']' then s.readClosing .flowSequenceEnd
  else if p.char = '\x7d' then s.readClosing .flowMappingEnd
  else if p.char = ',' then s.readComma
  else if p.char = '-' && startsOpen rest then s.readItem p
  else if p.char = '?' && opensValue then s.readKey p
  else if p.char = ':' && opensValue then s.readValue p
  else if p.char = '\'' || p.char = '"' then s.readQuoted p
  else if startsPlain s.inFlow p rest then s.readPlain p
  else none

/-- Reads the tokens of a text; `turns` bounds their number. -/
def readAll : (turns : Nat) → Scan → Option (List Token)
  | 0, _ => none
  | turns + 1, s =>
    let s := s.passGap
    match s.rest with
    | [] =>
      if s.keys.all fun k => (forget k).isSome then some s.closeAll.tokens.reverse else none
    | p :: rest =>
      match s.keys.mapM (forgetStale p) with
      | none => none
      | some keys =>
        match ({ s with keys := keys }.closeTo p.column).readToken p rest with
        | none => none
        | some s => readAll turns s

end Scan

/-- The tokens of a text. -/
def tokens? (text : String) : Option (List Token) :=
  (place? text.toList).bind fun ps => (Scan.ofText ps).readAll (ps.length + 1)

end NodeSidecar.Yaml
