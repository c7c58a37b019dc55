/-!
The exact value of a double and the two roundings to whole numbers that planning needs.
Every finite double is a sign and a whole number of units of `2 ^ (-1074)`, so all exact
statements about doubles are statements about natural numbers.
-/
namespace GalaxyScenario

inductive Binary64 where
  | nan
  | infinite (negative : Bool)
  | finite (negative : Bool) (units : Nat)
  deriving DecidableEq, Repr

namespace Binary64

/-- The number of units in the number one. -/
def unitsPerOne : Nat := Nat.pow 2 1074

/-- The place value of the hidden bit, `2 ^ 52`: the bits below it are the fraction, and the step
of the exponent field. -/
def hiddenBit : Nat := 0x10000000000000

def signPlace : Nat := 0x8000000000000000

def infinityBits : Nat := 2047 * hiddenBit

/-- The bits of NaN: those of infinity and the highest bit of the fraction. -/
def nanBits : Nat := infinityBits + hiddenBit / 2

def magnitudeBits (x : Float) : Nat := x.toBits.toNat % signPlace

def signBit (x : Float) : Bool := decide (signPlace ≤ x.toBits.toNat)

/-- The magnitude in units of finite magnitude bits. An exponent field of zero has no hidden bit;
any other field `e + 1` shifts the fraction, with its hidden bit, by `e`. -/
def unitsOfBits (bits : Nat) : Nat :=
  match bits / hiddenBit with
  | 0 => bits
  | e + 1 => (hiddenBit + bits % hiddenBit) <<< e

def ofFloat (x : Float) : Binary64 :=
  let bits := magnitudeBits x
  if bits < infinityBits then .finite (signBit x) (unitsOfBits bits)
  else if bits = infinityBits then .infinite (signBit x)
  else .nan

def assemble (negative : Bool) (bits : Nat) : Float :=
  Float.ofBits (UInt64.ofNat (if negative then signPlace + bits else bits))

/-- Division to the nearest whole number, a half going to the even neighbour. -/
def divHalfEven (n d : Nat) : Nat :=
  let q := n / d
  if 2 * (n % d) < d then q
  else if d < 2 * (n % d) then q + 1
  else q + q % 2

def divHalfUp (n d : Nat) : Nat := (2 * n + d) / (2 * d)

def divCeil (n d : Nat) : Nat := (n + (d - 1)) / d

/-- The magnitude bits of the double nearest to `num / den`, a half going to the even neighbour
and everything beyond the largest double to infinity. The quotient keeps 53 binary digits, or
fewer near zero; since the hidden bit of one step is the exponent of the next, a carry out of the
fraction needs no case of its own. -/
def nearestBits (num den : Nat) : Nat :=
  let units := num * unitsPerOne
  let shift := (units / den).log2 - 52
  min (shift * hiddenBit + divHalfEven units (den <<< shift)) infinityBits

/-- The whole number nearest to a positive double, halves away from zero; 0 for every other one. -/
def nearestNat (x : Float) : Nat :=
  match ofFloat x with
  | .finite false units => divHalfUp units unitsPerOne
  | _ => 0

/-- The least whole number not below a positive double; 0 for every other one. -/
def ceilNat (x : Float) : Nat :=
  match ofFloat x with
  | .finite false units => divCeil units unitsPerOne
  | _ => 0

def isFinite (x : Float) : Bool := decide (magnitudeBits x < infinityBits)

theorem unitsOfBits_of_lt {bits : Nat} (h : bits < hiddenBit) : unitsOfBits bits = bits := by
  unfold unitsOfBits
  rw [Nat.div_eq_of_lt h]

end Binary64
end GalaxyScenario
