import Corridor.Json.Basic
/-!
The double that a number denotes. The leading digits are gathered in a 64-bit significand, which is
scaled by one power of ten, so that a long number may come out one unit away from the nearest double.
-/
namespace Corridor.Json.Number

/-- Digits are gathered as long as the significand fits 64 bits; the others are left over. -/
def gather : Nat → List Char → Nat × List Char
  | significand, [] => (significand, [])
  | significand, digit :: rest =>
    let next := significand * 10 + (digit.toNat - 48)
    if next ≤ Numeral.maxNat64 then gather next rest else (significand, digit :: rest)

def powerOfTen (n : Nat) : Float := Float.ofScientific 1 false n

def shrink : Nat → Float → Float
  | 0, f => f
  | times + 1, f => if f == 0 then f else shrink times (f / powerOfTen 308)

def scale (significand : Nat) (power : Int) : Option Float :=
  let f := Float.ofNat significand
  if 0 ≤ power then
    if power ≤ 308 then
      let scaled := f * powerOfTen power.toNat
      if scaled.isInf then none else some scaled
    else if significand = 0 then some f else none
  else
    let down := (-power).toNat
    let shrunk := shrink ((down - 1) / 308) f
    if shrunk == 0 then some shrunk else some (shrunk / powerOfTen (down - (down - 1) / 308 * 308))

def ofDigits (negative : Bool) (whole fraction : List Char) (power : Int) : Option Float :=
  let (significand, dropped) := gather 0 whole
  let (significand, unread) := gather significand fraction
  (scale significand (power + dropped.length - (fraction.length - unread.length : Nat))).map
    fun f => if negative then -f else f

def toFloat? : Number → Option Float
  | integer negative magnitude => ofDigits negative (Numeral.ofNat magnitude) [] 0
  | decimal negative whole fraction power => ofDigits negative (Numeral.ofNat whole) fraction power

/-- The integer that a number is written as; minus zero is none. -/
def toInt? : Number → Option Int
  | integer false magnitude => some magnitude
  | integer true magnitude => if magnitude = 0 then none else some (-(magnitude : Int))
  | decimal .. => none

end Corridor.Json.Number
