import GalaxyScenario.Decimal.Basic

/-!
The decimal with the fewest digits that reads back as a given double and, among those with that
many digits, the one nearest to it.

A grid of decimals with `n` digits around the double has two points next to it. If any point of
the grid reads back, one of these two does, so trying both on finer and finer grids finds the
coarsest one that holds an answer. Seventeen digits always suffice.
-/
namespace GalaxyScenario.Decimal

/-- The least power of ten above `num / den`: the `k` with `10 ^ (k - 1) ≤ num / den < 10 ^ k`. -/
def decade (num den : Nat) : Int :=
  if den ≤ num then digitCount (num / den)
  else 1 - (digitCount ((den - 1) / num) : Int)

inductive Tie where
  | up
  | toEven
  deriving DecidableEq, Repr

/-- Whether the upper neighbour is chosen, given the position `rem / step` of the number between
its lower neighbour `lower` and the upper one. -/
def Tie.takesUpper (tie : Tie) (lower rem step : Nat) : Bool :=
  match compare (2 * rem) step with
  | .lt => false
  | .gt => true
  | .eq =>
    match tie with
    | .up => true
    | .toEven => lower % 2 == 1

/-- The answer on the grid of step `10 ^ exponent` for the double of `units` units and magnitude
bits `bits`, if a neighbour of the double on it reads back. -/
def onGrid? (tie : Tie) (bits units : Nat) (exponent : Int) : Option Decimal :=
  let num := units * powerOfTen (-exponent).toNat
  let step := Binary64.unitsPerOne * powerOfTen exponent.toNat
  let lower := num / step
  let low : Decimal := ⟨lower, exponent⟩
  let high : Decimal := ⟨lower + 1, exponent⟩
  match decide (low.nearestBits = bits), decide (high.nearestBits = bits) with
  | true, true => some (if tie.takesUpper lower (num % step) step then high else low)
  | true, false => some low
  | false, true => some high
  | false, false => none

/-- The same number with a last zero moved into the exponent. Only ten, the neighbour above nine
on the coarsest grid, ever needs it: any other point with a last zero lies on a coarser grid. -/
def dropLastZero (d : Decimal) : Decimal :=
  if d.digits % 10 = 0 then ⟨d.digits / 10, d.exponent + 1⟩ else d

def exact (units : Nat) : Decimal := ⟨units * Nat.pow 5 1074, -1074⟩

def shortest (tie : Tie) (bits : Nat) : Decimal :=
  let units := Binary64.unitsOfBits bits
  if units = 0 then ⟨0, 0⟩
  else
    let top := decade units Binary64.unitsPerOne
    let found := (List.range 17).findSome? fun n => onGrid? tie bits units (top - (n + 1 : Nat))
    dropLastZero (found.getD (exact units))

end GalaxyScenario.Decimal
