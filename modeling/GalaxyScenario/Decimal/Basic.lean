import GalaxyScenario.Binary64

/-! Decimal numbers and the double nearest to each. -/
namespace GalaxyScenario

/-- The number `digits * 10 ^ exponent`. -/
structure Decimal where
  digits : Nat
  exponent : Int
  deriving DecidableEq, Repr

namespace Decimal

def powerOfTen (n : Nat) : Nat := Nat.pow 10 n

def num (d : Decimal) : Nat := d.digits * powerOfTen d.exponent.toNat

def den (d : Decimal) : Nat := powerOfTen (-d.exponent).toNat

/-- The magnitude bits of the nearest double. Numbers from `10 ^ 400` up are infinite and numbers
below `2 ^ (-1100)` are zero; deciding these first keeps the fraction as small as the digits. -/
def nearestBits (d : Decimal) : Nat :=
  if d.digits = 0 then 0
  else if 400 ≤ d.exponent then Binary64.infinityBits
  else if (d.digits.log2 : Int) + 1 + 3 * d.exponent < -1100 then 0
  else Binary64.nearestBits d.num d.den

def toFloat (d : Decimal) : Float := Binary64.assemble false d.nearestBits

def digitList (n : Nat) : List Char := Nat.toDigits 10 n

def digitCount (n : Nat) : Nat := (digitList n).length

end Decimal
end GalaxyScenario
