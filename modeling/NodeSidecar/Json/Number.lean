import NodeSidecar.Json.Basic
import NodeSidecar.Text.Decimal
/-!
# Json — numbers from digits

How the digits of a number become its value. A number without fraction and
exponent that fits 64 bits is whole. Any other is a double: as many leading
digits as fit 64 unsigned bits, as a double, times or divided by the power of
ten that is left. This costs one or two roundings, so a long fraction can
come out one unit in the last place away from the nearest double.
-/

namespace NodeSidecar.Json

/-- The parts of a number as it is written. -/
structure Numeral where
  /-- A minus sign stands in front. -/
  negative : Bool
  /-- The digits before the point. -/
  whole : List Char
  /-- The digits after the point. -/
  fraction : List Char
  /-- The sign and the digits of the exponent. -/
  exponent : Option (Bool × List Char)
  deriving DecidableEq, Repr

namespace Numeral

/-- Takes digits into a significand while it fits 64 bits; answers the
significand and the digits that were not taken. -/
def absorb (significand : Nat) : List Char → Nat × List Char
  | [] => (significand, [])
  | c :: rest =>
    let next := 10 * significand + (c.toNat - '0'.toNat)
    if next ≤ Text.max64 then absorb next rest else (significand, c :: rest)

/-- A power of ten as a double. -/
def tenTo (n : Nat) : Float :=
  Float.ofScientific 1 false n

/-- Multiplies by a power of ten, and fails when the product is infinite. An
exponent past 308 is taken in steps; `steps` bounds them, as two divisions by
10^308 take every significand to zero. -/
def scale (steps : Nat) (f : Float) (e : Int) : Option Float :=
  if e.natAbs ≤ 308 then
    if 0 ≤ e then
      let product := f * tenTo e.natAbs
      if product.isInf then none else some product
    else some (f / tenTo e.natAbs)
  else if f == 0.0 then some f
  else if 0 ≤ e then none
  else
    match steps with
    | 0 => some 0.0
    | steps + 1 => scale steps (f / tenTo 308) (e + 308)

/-- The largest exponent that is read digit by digit. -/
def exponentLimit : Nat := 2147483647

/-- The double of a numeral: significand, power of ten, sign. -/
def double? (n : Numeral) : Option Float :=
  let (head, untaken) := absorb 0 n.whole
  let (significand, dropped) := absorb head n.fraction
  let point : Int := untaken.length - (n.fraction.length - dropped.length : Nat)
  let sign := fun f : Float => if n.negative then -f else f
  match n.exponent with
  | none => (scale 3 significand.toUInt64.toFloat point).map sign
  | some (down, digits) =>
    let e := Text.digitsValue digits
    if e ≤ exponentLimit then
      (scale 3 significand.toUInt64.toFloat (if down then point - e else point + e)).map sign
    else if significand = 0 || down then some (sign 0.0)
    else none

/-- The least whole number of 64 bits, without its sign. -/
def lowest64 : Nat := 9223372036854775808

/-- The value of a numeral; none when it is past the largest double. Negative
zero, and whole numbers past 64 bits, are doubles. -/
def value? (n : Numeral) : Option Number :=
  let size := Text.digitsValue n.whole
  if n.fraction.isEmpty && n.exponent.isNone && size ≤ Text.max64 &&
      (!n.negative || (0 < size && size ≤ lowest64)) then
    some (.whole (if n.negative then -size else size))
  else n.double?.map fun f => .double f.toBits

end Numeral

end NodeSidecar.Json
