import Corridor.Numeral
import Corridor.Decimal.Shortest
/-!
The text of a double: its shortest decimal in positional notation, never with an exponent.
-/
namespace Corridor.Decimal

def fractionDigits (places fraction : Nat) : List Char :=
  let digits := Numeral.ofNat fraction
  ((List.replicate (places - digits.length) '0' ++ digits).reverse.dropWhile (· == '0')).reverse

def Scaled.parts (s : Scaled) : List Char × List Char :=
  if 0 ≤ s.power then (Numeral.ofNat (s.digits * Nat.pow 10 s.power.toNat), [])
  else
    let places := (-s.power).toNat
    (Numeral.ofNat (s.digits / Nat.pow 10 places),
      fractionDigits places (s.digits % Nat.pow 10 places))

def Scaled.positional (s : Scaled) : List Char :=
  match s.parts with
  | (whole, []) => whole
  | (whole, fraction) => whole ++ '.' :: fraction

inductive Reading where
  | notANumber
  | infinite (negative : Bool)
  | finite (negative : Bool) (magnitude : Scaled)
  deriving DecidableEq, Repr

def readingOfBits (bits : Nat) : Reading :=
  let negative : Bool := bits / mantissaRange / 2048 = 1
  if storedExponent bits = 2047 then
    if bits % mantissaRange = 0 then .infinite negative else .notANumber
  else .finite negative (shortest (binaryOfBits bits))

def Reading.text : Reading → List Char
  | .notANumber => ['N', 'a', 'N']
  | .infinite false => ['i', 'n', 'f']
  | .infinite true => ['-', 'i', 'n', 'f']
  | .finite false magnitude => magnitude.positional
  | .finite true magnitude => '-' :: magnitude.positional

def ofFloat (x : Float) : List Char := (readingOfBits x.toBits.toNat).text

end Corridor.Decimal
