import GalaxyScenario.Decimal.Layout
import GalaxyScenario.Decimal.Numeral

/-!
Numbers of a JSON document: their grammar, and the doubles and words they are read as.

Reading a double is not always correctly rounded. The digits are collected into a word of 64 bits
as long as they fit, the word is rounded to a double, and that is scaled by a power of ten; each
step rounds. Whole numbers that fit are exact.
-/
namespace GalaxyScenario.Json

/-- The parts of a number as it is spelled. Of an exponent they are whether it is negative and its
digits. -/
structure Number where
  negative : Bool
  whole : List Char
  fraction : List Char
  exponent : Option (Bool × List Char)
  deriving DecidableEq, Repr

namespace Number

def digits? (cs : List Char) : Option (List Char × List Char) :=
  let digits := cs.takeWhile Char.isDigit
  if digits.isEmpty then none else some (digits, cs.dropWhile Char.isDigit)

/-- The digits before a point: a zero stands alone. -/
def whole? (cs : List Char) : Option (List Char × List Char) := do
  let (digits, rest) ← digits? cs
  if digits.head? = some '0' ∧ 1 < digits.length then none else some (digits, rest)

def fraction? : List Char → Option (List Char × List Char)
  | '.' :: rest => digits? rest
  | cs => some ([], cs)

def exponent? : List Char → Option (Option (Bool × List Char))
  | [] => some none
  | c :: rest => do
    if c ≠ 'e' ∧ c ≠ 'E' then none
    let (negative, cs) := Numeral.splitSign rest
    let (digits, rest) ← digits? cs
    if rest.isEmpty then some (some (negative, digits)) else none

def ofChars? (cs : List Char) : Option Number := do
  let (negative, cs) := match cs with
    | '-' :: rest => (true, rest)
    | cs => (false, cs)
  let (whole, cs) ← whole? cs
  let (fraction, cs) ← fraction? cs
  let exponent ← exponent? cs
  return { negative, whole, fraction, exponent }

def wordMax : Nat := UInt64.size - 1

/-- Digits collected into a word, and how many were left out. From the first digit that would make
the word too large, all are left out. -/
def collect (word : Nat) : List Char → Nat × Nat
  | [] => (word, 0)
  | c :: rest =>
    let next := word * 10 + (c.toNat - '0'.toNat)
    if next ≤ wordMax then collect next rest else (word, rest.length + 1)

def significand (n : Number) : Nat × Int :=
  let (word, dropped) := collect 0 n.whole
  let (word, unread) := collect word n.fraction
  (word, (dropped : Int) - ((n.fraction.length - unread : Nat) : Int))

/-- The largest exponent; the least one is `-exponentMax - 1`. -/
def exponentMax : Int := 2147483647

def powerOfTen (n : Nat) : Float := Decimal.toFloat ⟨1, n⟩

/-- A nonnegative double times `10 ^ exponent`, in divisions by `10 ^ 308` as long as the exponent
is out of reach. A result beyond the largest double is an error. -/
def scale (fuel : Nat) (f : Float) (exponent : Int) : Option Float :=
  if exponent.natAbs ≤ 308 then
    if exponent < 0 then some (f / powerOfTen exponent.natAbs)
    else
      let scaled := f * powerOfTen exponent.natAbs
      if Binary64.isFinite scaled then some scaled else none
  else if f == 0.0 then some f
  else if 0 < exponent then none
  else
    match fuel with
    | 0 => some 0.0
    | fuel + 1 => scale fuel (f / powerOfTen 308) (exponent + 308)

/-- The magnitude of the double that a number is read as. Three divisions by `10 ^ 308` bring
every word to zero. -/
def magnitude? (n : Number) : Option Float :=
  let (word, power) := n.significand
  let written := n.exponent.map fun (negative, digits) =>
    (negative, Numeral.digitsValue 0 digits)
  match written with
  | none => scale 3 (Float.ofNat word) power
  | some (negative, value) =>
    if exponentMax < value then
      if negative || word == 0 then some 0.0 else none
    else
      let sum := if negative then power - value else power + value
      scale 3 (Float.ofNat word) (max (-exponentMax - 1) (min exponentMax sum))

def toFloat? (n : Number) : Option Float :=
  n.magnitude?.map fun f => if n.negative then -f else f

def toUInt32? (n : Number) : Option UInt32 :=
  let value := Numeral.digitsValue 0 n.whole
  if n.negative ∨ ¬ n.fraction.isEmpty ∨ n.exponent.isSome ∨ UInt32.size ≤ value then none
  else some (UInt32.ofNat value)

end Number
end GalaxyScenario.Json
