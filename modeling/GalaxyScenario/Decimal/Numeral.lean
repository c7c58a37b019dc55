import GalaxyScenario.Decimal.Basic

/-!
Reading a numeral: an optional sign, then digits with an optional point and an optional exponent,
or one of the words `inf`, `infinity` and `nan` in any letter case. The value is the nearest double.
-/
namespace GalaxyScenario.Numeral

def digitsValue (start : Nat) (digits : List Char) : Nat :=
  digits.foldl (fun value c => 10 * value + (c.toNat - '0'.toNat)) start

def splitSign : List Char → Bool × List Char
  | '-' :: rest => (true, rest)
  | '+' :: rest => (false, rest)
  | cs => (false, cs)

/-- What follows the digits: nothing, or the mark of an exponent, an optional sign and digits. -/
def exponent? : List Char → Option Int
  | [] => some 0
  | c :: rest =>
    if c = 'e' ∨ c = 'E' then
      let (negative, digits) := splitSign rest
      if digits.isEmpty ∨ ¬ digits.all Char.isDigit then none
      else some (if negative then -(digitsValue 0 digits : Int) else digitsValue 0 digits)
    else none

def fraction : List Char → List Char × List Char
  | '.' :: rest => (rest.takeWhile Char.isDigit, rest.dropWhile Char.isDigit)
  | cs => ([], cs)

/-- A numeral made of digits; at least one stands before or after the point. -/
def decimal? (cs : List Char) : Option Decimal :=
  let whole := cs.takeWhile Char.isDigit
  let (places, rest) := fraction (cs.dropWhile Char.isDigit)
  if whole.isEmpty && places.isEmpty then none
  else (exponent? rest).map fun exponent =>
    ⟨digitsValue (digitsValue 0 whole) places, exponent - (places.length : Int)⟩

def word? (cs : List Char) : Option Nat :=
  match cs.map Char.toLower with
  | ['i', 'n', 'f'] => some Binary64.infinityBits
  | ['i', 'n', 'f', 'i', 'n', 'i', 't', 'y'] => some Binary64.infinityBits
  | ['n', 'a', 'n'] => some Binary64.nanBits
  | _ => none

def read? (cs : List Char) : Option Float :=
  let (negative, magnitude) := splitSign cs
  let bits := word? magnitude <|> (decimal? magnitude).map Decimal.nearestBits
  bits.map (Binary64.assemble negative)

end GalaxyScenario.Numeral
