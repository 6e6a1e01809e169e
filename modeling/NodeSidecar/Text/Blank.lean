/-!
# Text — blank characters

Which characters are blank, and what is left of a text when the blanks at
its two ends are taken off. The class is the Unicode property
`White_Space`, so a no-break space and an ideographic space are blank, a
zero-width space is not.
-/

namespace NodeSidecar.Text

/-- The code points of the property `White_Space`, as closed ranges. -/
def blankRanges : List (Nat × Nat) :=
  [(0x09, 0x0D), (0x20, 0x20), (0x85, 0x85), (0xA0, 0xA0), (0x1680, 0x1680),
    (0x2000, 0x200A), (0x2028, 0x2029), (0x202F, 0x202F), (0x205F, 0x205F),
    (0x3000, 0x3000)]

/-- A character with the property `White_Space`. -/
def isBlank (c : Char) : Bool :=
  blankRanges.any fun r => r.1 ≤ c.toNat && c.toNat ≤ r.2

/-- The text without the blanks at its two ends. -/
def trim (cs : List Char) : List Char :=
  ((cs.dropWhile isBlank).reverse.dropWhile isBlank).reverse

/-- A text that holds no character but blanks. -/
def isAllBlank (cs : List Char) : Bool :=
  cs.all isBlank

/-- The one-byte blanks of a plain-text protocol: space, tab, line feed,
form feed and carriage return. -/
def isAsciiBlank (b : UInt8) : Bool :=
  b == 0x20 || b == 0x09 || b == 0x0A || b == 0x0C || b == 0x0D

end NodeSidecar.Text
