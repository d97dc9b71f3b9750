/-!
The shortest decimal that reads back as a given binary floating-point number. A number is
`mantissa · 2 ^ exponent`; the reals that round to it form an interval, and on the coarsest decimal
grid that meets the interval one of the number's two neighbours on that grid is taken.
-/
namespace Corridor.Decimal

structure Binary where
  mantissa : Nat
  exponent : Int
  deriving DecidableEq, Repr

structure Scaled where
  digits : Nat
  power : Int
  deriving DecidableEq, Repr

/-- The number of mantissas of one length, two to the 52nd. -/
def mantissaRange : Nat := 4503599627370496

def storedExponent (bits : Nat) : Nat := bits / mantissaRange % 2048

def binaryOfBits (bits : Nat) : Binary :=
  let fraction := bits % mantissaRange
  if storedExponent bits = 0 then ⟨fraction, -1074⟩
  else ⟨fraction + mantissaRange, Int.ofNat (storedExponent bits) - 1075⟩

def fractionOf (m : Nat) (e : Int) : Nat × Nat :=
  if 0 ≤ e then (m * Nat.pow 2 e.toNat, 1) else (m, Nat.pow 2 (-e).toNat)

def decimalFraction (m : Nat) (e : Int) : Nat × Nat :=
  if 0 ≤ e then (m * Nat.pow 10 e.toNat, 1) else (m, Nat.pow 10 (-e).toNat)

def lessEq (a b : Nat × Nat) : Bool := a.1 * b.2 ≤ b.1 * a.2

def less (a b : Nat × Nat) : Bool := a.1 * b.2 < b.1 * a.2

def leadingPower (v : Nat × Nat) : Int :=
  if v.2 ≤ v.1 then ((Nat.toDigits 10 (v.1 / v.2)).length : Int) - 1
  else -((Nat.toDigits 10 ((v.2 + v.1 - 1) / v.1 - 1)).length : Int)

/-- The interval of reals that round to a number; its ends belong to it iff the mantissa is even. -/
structure Interval where
  low : Nat × Nat
  high : Nat × Nat
  closed : Bool

/-- Below a power of two the neighbours lie half as far apart. -/
def Binary.interval (b : Binary) : Interval :=
  ⟨fractionOf (if b.mantissa = mantissaRange then 4 * b.mantissa - 1 else 4 * b.mantissa - 2) (b.exponent - 2),
    fractionOf (4 * b.mantissa + 2) (b.exponent - 2), b.mantissa % 2 = 0⟩

def Interval.contains (i : Interval) (v : Nat × Nat) : Bool :=
  if i.closed then lessEq i.low v && lessEq v i.high else less i.low v && less v i.high

/-- The nearer of the number's neighbours on the grid of `10 ^ power` that lie in the interval; of two
equally near ones the greater. -/
def nearestOnGrid (value : Nat × Nat) (interval : Interval) (power : Int) : Option Scaled :=
  let unit := decimalFraction 1 power
  let floor := value.1 * unit.2 / (value.2 * unit.1)
  let rest := value.1 * unit.2 % (value.2 * unit.1)
  let below := interval.contains (decimalFraction floor power)
  let above := interval.contains (decimalFraction (floor + 1) power)
  if below ∧ above then
    some ⟨if 2 * rest < value.2 * unit.1 then floor else floor + 1, power⟩
  else if below then some ⟨floor, power⟩
  else if above then some ⟨floor + 1, power⟩
  else none

/-- Seventeen digits tell any two doubles apart, so a grid is found. -/
def shortest (b : Binary) : Scaled :=
  if b.mantissa = 0 then ⟨0, 0⟩ else
    let value := fractionOf b.mantissa b.exponent
    let leading := leadingPower value
    ((List.range 17).findSome? fun (n : Nat) => nearestOnGrid value b.interval (leading - n)).getD
      ⟨value.1 * Nat.pow 10 (16 - leading).toNat / value.2, leading - 16⟩

end Corridor.Decimal
