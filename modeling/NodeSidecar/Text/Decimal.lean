/-!
# Text — numbers in digits

Reading and writing whole numbers. Reading is bounded by the largest value
the reader has room for; writing uses the fewest digits.
-/

namespace NodeSidecar.Text

/-- The number that a run of decimal digits denotes. -/
def digitsValue (cs : List Char) : Nat :=
  cs.foldl (fun n c => 10 * n + (c.toNat - '0'.toNat)) 0

/-- A non-empty run of decimal digits. -/
def isDigits (cs : List Char) : Bool :=
  !cs.isEmpty && cs.all Char.isDigit

/-- Reads a run of decimal digits whose value is at most `top`; leading
zeros are read over. -/
def digits? (top : Nat) (cs : List Char) : Option Nat :=
  if isDigits cs && digitsValue cs ≤ top then some (digitsValue cs) else none

/-- Reads a run of decimal digits that a single plus sign may precede. -/
def number? (top : Nat) : List Char → Option Nat
  | '+' :: cs => digits? top cs
  | cs => digits? top cs

/-- The value of a hexadecimal digit, of either case. -/
def hexValue? (c : Char) : Option Nat :=
  if c.isDigit then some (c.toNat - '0'.toNat)
  else if 'a' ≤ c ∧ c ≤ 'f' then some (c.toNat - 'a'.toNat + 10)
  else if 'A' ≤ c ∧ c ≤ 'F' then some (c.toNat - 'A'.toNat + 10)
  else none

/-- The value of a digit in a base up to sixteen. -/
def digitIn? (base : Nat) (c : Char) : Option Nat :=
  (hexValue? c).filter (· < base)

/-- Reads a non-empty run of digits of a base up to sixteen whose value is at
most `top`. -/
def digitsIn? (base top : Nat) (cs : List Char) : Option Nat :=
  if cs.isEmpty then none
  else
    (cs.foldlM (fun n c => (digitIn? base c).map (base * n + ·)) 0).filter (· ≤ top)

/-- A number in decimal, in as few digits as it takes. -/
def decimal (n : Nat) : List Char :=
  Nat.toDigits 10 n

/-- A whole number in decimal, with a minus sign if it is negative. -/
def signedDecimal (n : Int) : String :=
  if n < 0 then "-" ++ String.ofList (decimal n.natAbs) else String.ofList (decimal n.natAbs)

/-- A number in lower-case hexadecimal, in at least `width` digits. -/
def hex (width n : Nat) : List Char :=
  let digits := Nat.toDigits 16 n
  List.replicate (width - digits.length) '0' ++ digits

/-- The largest value of sixteen bits. -/
def max16 : Nat := 65535

/-- The largest value of thirty-two bits. -/
def max32 : Nat := 4294967295

/-- The largest value of sixty-four bits. -/
def max64 : Nat := 18446744073709551615

end NodeSidecar.Text
