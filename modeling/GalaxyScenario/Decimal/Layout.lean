import GalaxyScenario.Decimal.Shortest

/-!
How a double is written. Each document has a layout of its own, and all of them write the
shortest decimal that reads back as the double.
-/
namespace GalaxyScenario

/-- The decisions of one way to write doubles: for which powers of ten of the first digit there is
no exponent, whether whole numbers end in `.0`, whether an exponent can have a plus sign, and which
of two equally near decimals stands for the double. -/
structure Layout where
  positional : Int → Bool
  wholePoint : Bool
  plusSign : Bool
  tie : Decimal.Tie

namespace Layout

/-- Coordinates, keys and sizes: never an exponent, whole numbers without a point. -/
def plain : Layout := ⟨fun _ => true, false, false, .up⟩

/-- Odds and strengths: always a point or an exponent, the latter from `1e16` up and below
`0.0001`. -/
def pointed : Layout := ⟨fun power => decide (-4 ≤ power ∧ power ≤ 15), true, false, .up⟩

/-- Numbers of a JSON document: an exponent from `1e+16` up and below `0.00001`. -/
def json : Layout := ⟨fun power => decide (-5 ≤ power ∧ power ≤ 15), true, true, .toEven⟩

/-- Digits around a point that stands after the first `point` of them, filled up with zeros. -/
def placePoint (wholePoint : Bool) (digits : List Char) (point : Int) : List Char :=
  if point ≤ 0 then '0' :: '.' :: (List.replicate (-point).toNat '0' ++ digits)
  else if digits.length ≤ point.toNat then
    digits ++ List.replicate (point.toNat - digits.length) '0' ++
      (if wholePoint then ['.', '0'] else [])
  else digits.take point.toNat ++ '.' :: digits.drop point.toNat

def scientific (plusSign : Bool) (digits : List Char) (power : Int) : List Char :=
  let fraction := digits.drop 1
  digits.take 1 ++ (if fraction.isEmpty then [] else '.' :: fraction) ++ 'e' ::
    ((if power < 0 then ['-'] else if plusSign then ['+'] else []) ++
      Decimal.digitList power.natAbs)

def decimal (l : Layout) (d : Decimal) : List Char :=
  let digits := Decimal.digitList d.digits
  let point := (digits.length : Int) + d.exponent
  if l.positional (point - 1) then placePoint l.wholePoint digits point
  else scientific l.plusSign digits (point - 1)

def sign (negative : Bool) : List Char := if negative then ['-'] else []

def chars (l : Layout) (x : Float) : List Char :=
  match Binary64.ofFloat x with
  | .nan => ['N', 'a', 'N']
  | .infinite negative => sign negative ++ ['i', 'n', 'f']
  | .finite negative _ =>
    sign negative ++ l.decimal (Decimal.shortest l.tie (Binary64.magnitudeBits x))

def text (l : Layout) (x : Float) : String := String.ofList (l.chars x)

end Layout

namespace Decimal

/-- A double rounded to one place after the point, a half going to the even neighbour. -/
def tenths (x : Float) : String :=
  match Binary64.ofFloat x with
  | .nan => "NaN"
  | .infinite negative => String.ofList (Layout.sign negative) ++ "inf"
  | .finite negative units =>
    let rounded := Binary64.divHalfEven (10 * units) Binary64.unitsPerOne
    String.ofList
      (Layout.sign negative ++ digitList (rounded / 10) ++ '.' :: digitList (rounded % 10))

end Decimal
end GalaxyScenario
