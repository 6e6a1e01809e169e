/-!
# Text — UTF-8

Text as octets and back. Decoding stops at the first octet that no
well-formed text could have there and says where and how long the fault
is; the two functions are inverse to each other on well-formed octets.
-/

namespace NodeSidecar.Text

/-- Octets, in the order they travel. -/
abbrev Octets := List UInt8

/-- Why octets are not UTF-8. `start` is the length of the well-formed text
before the fault. -/
inductive Utf8Flaw where
  /-- `length` octets at `start` begin no character. -/
  | malformed (start length : Nat)
  /-- The octets end inside a character that begins at `start`. -/
  | incomplete (start : Nat)
  deriving DecidableEq, Repr

namespace Utf8Flaw

/-- The wording of a flaw. -/
def message : Utf8Flaw → String
  | .malformed start length =>
    s!"invalid utf-8 sequence of {length} bytes from index {start}"
  | .incomplete start => s!"incomplete utf-8 byte sequence from index {start}"

end Utf8Flaw

/-- An octet that continues a character. -/
def isTail (b : UInt8) : Bool :=
  0x80 ≤ b && b ≤ 0xBF

/-- The second octets that may follow a first octet of a character of three
or four. The bounds keep out over-long forms, surrogates and everything past
the last code point. -/
def isSecond (first second : UInt8) : Bool :=
  if first = 0xE0 then 0xA0 ≤ second && second ≤ 0xBF
  else if first = 0xED then 0x80 ≤ second && second ≤ 0x9F
  else if first = 0xF0 then 0x90 ≤ second && second ≤ 0xBF
  else if first = 0xF4 then 0x80 ≤ second && second ≤ 0x8F
  else isTail second

/-- The payload of an octet that continues a character. -/
def tailBits (b : UInt8) : Nat :=
  b.toNat % 64

/-- What one look at the front of the octets finds. -/
inductive Utf8Head where
  /-- A whole character of `length` octets. -/
  | char (c : Char) (length : Nat)
  /-- `length` octets that begin no character. -/
  | malformed (length : Nat)
  /-- The start of a character that the octets do not finish. -/
  | incomplete
  deriving DecidableEq, Repr

/-- The first character, for octets that begin with `first`. -/
def utf8Head (first : UInt8) (rest : Octets) : Utf8Head :=
  if first < 0x80 then .char (Char.ofNat first.toNat) 1
  else if first < 0xC2 then .malformed 1
  else if first < 0xE0 then
    match rest with
    | [] => .incomplete
    | b :: _ =>
      if isTail b then .char (Char.ofNat (first.toNat % 32 * 64 + tailBits b)) 2
      else .malformed 1
  else if first < 0xF0 then
    match rest with
    | [] => .incomplete
    | [b] => if isSecond first b then .incomplete else .malformed 1
    | b :: c :: _ =>
      if !isSecond first b then .malformed 1
      else if !isTail c then .malformed 2
      else .char (Char.ofNat ((first.toNat % 16 * 64 + tailBits b) * 64 + tailBits c)) 3
  else if first < 0xF5 then
    match rest with
    | [] => .incomplete
    | [b] => if isSecond first b then .incomplete else .malformed 1
    | [b, c] =>
      if !isSecond first b then .malformed 1
      else if isTail c then .incomplete else .malformed 2
    | b :: c :: d :: _ =>
      if !isSecond first b then .malformed 1
      else if !isTail c then .malformed 2
      else if !isTail d then .malformed 3
      else
        .char (Char.ofNat
          (((first.toNat % 8 * 64 + tailBits b) * 64 + tailBits c) * 64 + tailBits d)) 4
  else .malformed 1

/-- Reads characters in front of `octets` until they end or fail, with `skip`
octets of the present character still to pass over. `start` counts the octets
passed; `read` holds the characters read, the last one first. -/
def decodeFrom (start skip : Nat) (read : List Char) : Octets → Except Utf8Flaw (List Char)
  | [] => .ok read.reverse
  | b :: rest =>
    match skip with
    | skip + 1 => decodeFrom (start + 1) skip read rest
    | 0 =>
      match utf8Head b rest with
      | .char c length => decodeFrom (start + 1) (length - 1) (c :: read) rest
      | .malformed length => .error (.malformed start length)
      | .incomplete => .error (.incomplete start)

/-- The text that octets spell. -/
def decodeUtf8 (octets : Octets) : Except Utf8Flaw (List Char) :=
  decodeFrom 0 0 [] octets

/-- The octets of one character. -/
def encodeChar (c : Char) : Octets :=
  let n := c.toNat
  if n < 0x80 then [UInt8.ofNat n]
  else if n < 0x800 then [UInt8.ofNat (0xC0 + n / 64), UInt8.ofNat (0x80 + n % 64)]
  else if n < 0x10000 then
    [UInt8.ofNat (0xE0 + n / 4096), UInt8.ofNat (0x80 + n / 64 % 64),
      UInt8.ofNat (0x80 + n % 64)]
  else
    [UInt8.ofNat (0xF0 + n / 262144), UInt8.ofNat (0x80 + n / 4096 % 64),
      UInt8.ofNat (0x80 + n / 64 % 64), UInt8.ofNat (0x80 + n % 64)]

/-- The octets of a text. -/
def encodeUtf8 (cs : List Char) : Octets :=
  cs.flatMap encodeChar

end NodeSidecar.Text
