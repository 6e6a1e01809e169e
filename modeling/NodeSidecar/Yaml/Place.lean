/-!
# YAML — characters in their places

What a YAML text means depends on where its characters stand. Here each
character is given its line, its column and its index. Lines and columns count
characters, an index counts octets. Line breaks are one character, whatever
they were written as; a carriage return before a line feed belongs to it.
-/

namespace NodeSidecar.Yaml

/-- A character in its place. -/
structure Placed where
  /-- The character. -/
  char : Char
  /-- How many octets of the text come before it. -/
  index : Nat
  /-- How many lines come before its line. -/
  line : Nat
  /-- How many characters of its line come before it. -/
  column : Nat
  deriving DecidableEq, Repr

/-- The next line, as some texts write it. -/
def nextLine : Char := Char.ofNat 0x85

/-- A break between lines. -/
def lineSeparator : Char := Char.ofNat 0x2028

/-- A break between paragraphs. -/
def paragraphSeparator : Char := Char.ofNat 0x2029

/-- The mark that may begin a text, or a line of it. -/
def byteOrderMark : Char := Char.ofNat 0xFEFF

/-- A character that ends a line, once breaks are one character. -/
def isBreak (c : Char) : Bool :=
  c = '\n' || c = lineSeparator || c = paragraphSeparator

/-- A space or a tab. -/
def isGap (c : Char) : Bool :=
  c = ' ' || c = '\t'

/-- A character that may stand in a text. -/
def isAllowed (c : Char) : Bool :=
  let n := c.toNat
  n = 0x09 || n = 0x0A || n = 0x0D || (0x20 ≤ n && n ≤ 0x7E) || n = 0x85
    || (0xA0 ≤ n && n ≤ 0xD7FF) || (0xE000 ≤ n && n ≤ 0xFFFD) || 0x10000 ≤ n

/-- Puts the characters of a text in their places, from a place on. -/
def placeFrom (index line column : Nat) : List Char → List Placed
  | [] => []
  | '\r' :: '\n' :: rest =>
    ⟨'\n', index, line, column⟩ :: placeFrom (index + 2) (line + 1) 0 rest
  | c :: rest =>
    if c = '\r' || c = nextLine then
      ⟨'\n', index, line, column⟩ :: placeFrom (index + c.utf8Size) (line + 1) 0 rest
    else if isBreak c then
      ⟨c, index, line, column⟩ :: placeFrom (index + c.utf8Size) (line + 1) 0 rest
    else ⟨c, index, line, column⟩ :: placeFrom (index + c.utf8Size) line (column + 1) rest

/-- The characters of a text in their places; a text with a character that may
not stand in it has none. -/
def place? (cs : List Char) : Option (List Placed) :=
  if cs.all isAllowed then some (placeFrom 0 0 0 cs) else none

/-- Whether there is nothing, or a gap or a break, next. -/
def startsOpen : List Placed → Bool
  | [] => true
  | p :: _ => isGap p.char || isBreak p.char

/-- Whether the mark of the beginning or the end of a document is next. -/
def startsMark (mark : Char) : List Placed → Bool
  | a :: b :: c :: rest =>
    a.column = 0 && a.char = mark && b.char = mark && c.char = mark && startsOpen rest
  | _ => false

/-- Whether a document begins or ends here. -/
def startsDocument (ps : List Placed) : Bool :=
  startsMark '-' ps || startsMark '.' ps

end NodeSidecar.Yaml
