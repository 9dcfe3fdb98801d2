/-!
# Linguist — numbers in binary64

Shares and the numbers of a JSON document are computed in the binary64 format:
fifty-three bits and a power of two. Every operation is the exact one on ratios
of natural numbers followed by rounding to the nearest number of the format, a
tie going to the even mantissa. Signs are kept elsewhere: numbers here are not
negative.

* `roundEven` and `roundAway` round a ratio to a whole number.
* `Binary64.ofRatio?` rounds a ratio to the format, unless it is too large.
-/

namespace Linguist

/-! ## Rounding to whole numbers -/

/-- The whole number nearest to a ratio, the even one of two. -/
def roundEven (num den : Nat) : Nat :=
  let quotient := num / den
  let twice := 2 * (num % den)
  if den < twice ∨ (twice = den ∧ quotient % 2 = 1) then quotient + 1 else quotient

/-- The whole number nearest to a ratio, the larger one of two. -/
def roundAway (num den : Nat) : Nat :=
  (2 * num + den) / (2 * den)

/-! ## The format -/

/-- The number `mantissa · 2 ^ exponent`. -/
structure Binary64 where
  mantissa : Nat
  exponent : Int
  deriving Repr, DecidableEq

namespace Binary64

/-- Mantissas are below this. -/
def mantissaLimit : Nat :=
  0x20000000000000

/-- The exponent of the smallest numbers. -/
def leastExponent : Int :=
  -1074

/-- The exponent of the largest numbers. -/
def greatestExponent : Int :=
  971

/-- A number as a ratio. -/
def ratio (x : Binary64) : Nat × Nat :=
  (x.mantissa * Nat.pow 2 x.exponent.toNat, Nat.pow 2 (-x.exponent).toNat)

/-- A ratio counted in units of `2 ^ exponent`. -/
def inUnits (num den : Nat) (exponent : Int) : Nat :=
  roundEven (num * Nat.pow 2 (-exponent).toNat) (den * Nat.pow 2 exponent.toNat)

/-- The number nearest to a ratio; `none` if it is beyond the largest. The first of three
exponents at which the mantissa fits is right: the smallest of them may be one too small, and
rounding may carry into one more bit. -/
def ofRatio? (num den : Nat) : Option Binary64 :=
  let estimate : Int := num.log2 - den.log2 - 53
  let least := max leastExponent estimate
  let fits := [least, least + 1, least + 2].find? fun exponent =>
    inUnits num den exponent < mantissaLimit && exponent ≤ greatestExponent
  fits.map fun exponent => ⟨inUnits num den exponent, exponent⟩

/-- Zero. -/
def zero : Binary64 :=
  ⟨0, 0⟩

/-- Whether a number is zero. -/
def isZero (x : Binary64) : Bool :=
  x.mantissa == 0

/-- The product of two numbers. -/
def mul? (x y : Binary64) : Option Binary64 :=
  ofRatio? (x.ratio.1 * y.ratio.1) (x.ratio.2 * y.ratio.2)

/-- The quotient of two numbers, the second not zero. -/
def div? (x y : Binary64) : Option Binary64 :=
  ofRatio? (x.ratio.1 * y.ratio.2) (x.ratio.2 * y.ratio.1)

end Binary64

end Linguist
