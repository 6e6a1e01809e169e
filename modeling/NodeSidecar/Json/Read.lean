import NodeSidecar.Json.Number
/-!
# Json — reading

A strict reader: no comments, no trailing commas, no text after the value,
no control characters in strings, and no half of a surrogate pair. Arrays and
objects may be nested 127 deep. `Json.read?` keeps the fields of an object as
they are written; `Json.parse?` puts them in canonical order.
-/

namespace NodeSidecar.Json

/-- How deep arrays and objects may be nested. -/
def depthLimit : Nat := 127

/-- The blanks that may stand between the parts of a value. -/
def isGap (c : Char) : Bool :=
  c = ' ' || c = '\t' || c = '\n' || c = '\r'

/-- The text after the blanks in front. -/
def skipGap (cs : List Char) : List Char :=
  cs.dropWhile isGap

/-- The value of four hexadecimal digits. -/
def unit? (a b c d : Char) : Option Nat := do
  let a ← Text.hexValue? a
  let b ← Text.hexValue? b
  let c ← Text.hexValue? c
  let d ← Text.hexValue? d
  return ((a * 16 + b) * 16 + c) * 16 + d

/-- The character that a letter after a backslash stands for. -/
def escaped? : Char → Option Char
  | '"' => some '"'
  | '\\' => some '\\'
  | '/' => some '/'
  | 'b' => some '\x08'
  | 'f' => some '\x0c'
  | 'n' => some '\n'
  | 'r' => some '\r'
  | 't' => some '\t'
  | _ => none

/-- The character of two surrogates. -/
def surrogates? (high low : Nat) : Option Char :=
  if 0xD800 ≤ high && high < 0xDC00 && 0xDC00 ≤ low && low < 0xE000 then
    some (Char.ofNat (0x10000 + (high - 0xD800) * 1024 + (low - 0xDC00)))
  else none

/-- Reads a string up to its closing quote. `read` holds the characters read,
the last one first. -/
def readString (read : List Char) : List Char → Option (String × List Char)
  | [] => none
  | '"' :: rest => some (String.ofList read.reverse, rest)
  | '\\' :: 'u' :: a :: b :: c :: d :: rest =>
    match unit? a b c d with
    | none => none
    | some n =>
      if n < 0xD800 || 0xE000 ≤ n then readString (Char.ofNat n :: read) rest
      else
        match rest with
        | '\\' :: 'u' :: a :: b :: c :: d :: rest =>
          match (unit? a b c d).bind (surrogates? n) with
          | some c => readString (c :: read) rest
          | none => none
        | _ => none
  | '\\' :: c :: rest =>
    match escaped? c with
    | some c => readString (c :: read) rest
    | none => none
  | c :: rest => if c < ' ' then none else readString (c :: read) rest

/-- Splits off the digits in front. -/
def readDigits (cs : List Char) : List Char × List Char :=
  (cs.takeWhile Char.isDigit, cs.dropWhile Char.isDigit)

/-- Reads the exponent of a number, if one follows. -/
def readExponent (cs : List Char) : Option (Option (Bool × List Char) × List Char) :=
  let body (down : Bool) (cs : List Char) :=
    match readDigits cs with
    | ([], _) => none
    | (digits, rest) => some (some (down, digits), rest)
  match cs with
  | c :: rest =>
    if c = 'e' || c = 'E' then
      match rest with
      | '+' :: rest => body false rest
      | '-' :: rest => body true rest
      | _ => body false rest
    else some (none, cs)
  | [] => some (none, [])

/-- Reads the digits after the point of a number, if a point follows. -/
def readFraction : List Char → Option (List Char × List Char)
  | '.' :: rest =>
    match readDigits rest with
    | ([], _) => none
    | (digits, rest) => some (digits, rest)
  | cs => some ([], cs)

/-- Reads a number after its sign. A zero in front stands alone. -/
def readUnsigned (negative : Bool) (cs : List Char) : Option (Json × List Char) := do
  let (whole, rest) ←
    match readDigits cs with
    | ([], _) => none
    | ('0' :: _ :: _, _) => none
    | (digits, rest) => some (digits, rest)
  let (fraction, rest) ← readFraction rest
  let (exponent, rest) ← readExponent rest
  let value ← Numeral.value? ⟨negative, whole, fraction, exponent⟩
  return (.number value, rest)

/-- Reads a value that begins with its first character: a word, a number or a
string. -/
def readScalar : List Char → Option (Json × List Char)
  | 'n' :: 'u' :: 'l' :: 'l' :: rest => some (.null, rest)
  | 't' :: 'r' :: 'u' :: 'e' :: rest => some (.bool true, rest)
  | 'f' :: 'a' :: 'l' :: 's' :: 'e' :: rest => some (.bool false, rest)
  | '"' :: rest => (readString [] rest).map fun p => (.string p.1, p.2)
  | '-' :: rest => readUnsigned true rest
  | cs => readUnsigned false cs

mutual

/-- Reads a value after blanks. Every call passes at least one character, so
`fuel` need not exceed their number; `depth` counts the arrays and objects
that may still be opened. -/
def readValue : (fuel depth : Nat) → List Char → Option (Json × List Char)
  | 0, _, _ => none
  | fuel + 1, depth, cs =>
    match skipGap cs with
    | '[' :: rest =>
      match depth, skipGap rest with
      | 0, _ => none
      | _ + 1, ']' :: rest => some (.array [], rest)
      | depth + 1, rest => readItems fuel depth [] rest
    | '{' :: rest =>
      match depth, skipGap rest with
      | 0, _ => none
      | _ + 1, '}' :: rest => some (.object [], rest)
      | depth + 1, rest => readFields fuel depth [] rest
    | cs => readScalar cs

/-- Reads the items of an array and its closing bracket. -/
def readItems : (fuel depth : Nat) → List Json → List Char → Option (Json × List Char)
  | 0, _, _, _ => none
  | fuel + 1, depth, read, cs =>
    match readValue fuel depth cs with
    | none => none
    | some (item, rest) =>
      match skipGap rest with
      | ',' :: rest => readItems fuel depth (item :: read) rest
      | ']' :: rest => some (.array (item :: read).reverse, rest)
      | _ => none

/-- Reads the fields of an object and its closing brace. -/
def readFields :
    (fuel depth : Nat) → List (String × Json) → List Char → Option (Json × List Char)
  | 0, _, _, _ => none
  | fuel + 1, depth, read, cs =>
    match skipGap cs with
    | '"' :: rest =>
      match readString [] rest with
      | none => none
      | some (key, rest) =>
        match skipGap rest with
        | ':' :: rest =>
          match readValue fuel depth rest with
          | none => none
          | some (value, rest) =>
            match skipGap rest with
            | ',' :: rest => readFields fuel depth ((key, value) :: read) rest
            | '}' :: rest => some (.object ((key, value) :: read).reverse, rest)
            | _ => none
        | _ => none
    | _ => none

end

/-- The value that a text spells, the fields of objects as they are written. -/
def read? (cs : List Char) : Option Json :=
  match readValue (2 * cs.length + 2) depthLimit cs with
  | some (j, rest) => if (skipGap rest).isEmpty then some j else none
  | none => none

/-- The value that a text spells, in canonical form. -/
def parse? (cs : List Char) : Option Json :=
  (read? cs).map canonical

end NodeSidecar.Json
