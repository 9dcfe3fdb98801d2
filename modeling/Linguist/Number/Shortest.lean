import Linguist.Number.Binary64

/-!
# Linguist — the shortest decimal

A binary64 number is written with the fewest digits that read back as the same
number; of several such decimals the nearest is taken. What reads back are the
decimals between the midpoints to the two neighbours in the format, and the
midpoints themselves if the mantissa is even. For a count of digits only the
two decimals around the number can be among them.

* `Decimal.shortest` finds the digits, `Decimal.text` lays them out.
-/

namespace Linguist

/-- The number `digits · 10 ^ exponent`. -/
structure Decimal where
  digits : Nat
  exponent : Int
  deriving Repr, DecidableEq

namespace Decimal

/-- How many digits a number has. -/
def width (n : Nat) : Nat :=
  (Nat.toDigits 10 n).length

/-- The exponent of the first digit of a ratio that is not zero. -/
def leadingExponent (num den : Nat) : Int :=
  if den ≤ num then width (num / den) - 1
  else -(width ((num + den - 1) / num - 1 : Nat) : Int)

/-- The decimals that read back as a number, as bounds in units of `2 ^ exponent`. -/
structure Interval where
  low : Nat
  middle : Nat
  high : Nat
  exponent : Int
  /-- whether the bounds belong to it -/
  closed : Bool

/-- The interval of a number. The neighbour below a power of two is nearer than the one above. -/
def Interval.of (x : Binary64) : Interval :=
  let atPower := 2 * x.mantissa == Binary64.mantissaLimit && x.exponent != Binary64.leastExponent
  { low := 4 * x.mantissa - (if atPower then 1 else 2)
    middle := 4 * x.mantissa
    high := 4 * x.mantissa + 2
    exponent := x.exponent - 2
    closed := x.mantissa % 2 == 0 }

/-- A decimal with the distance from the middle if it lies in an interval; distances of one
exponent compare. -/
def Interval.distance? (interval : Interval) (decimal : Decimal) : Option Nat :=
  let scale := Nat.pow 2 interval.exponent.toNat * Nat.pow 10 (-decimal.exponent).toNat
  let value :=
    decimal.digits * Nat.pow 10 decimal.exponent.toNat * Nat.pow 2 (-interval.exponent).toNat
  let low := interval.low * scale
  let high := interval.high * scale
  let middle := interval.middle * scale
  let inside := if interval.closed then low ≤ value && value ≤ high else low < value && value < high
  if inside then some ((value - middle) + (middle - value)) else none

/-- The decimal of `count` digits that reads back as a number, the nearer of two. -/
def withDigits? (x : Binary64) (count : Nat) : Option Decimal :=
  let (num, den) := x.ratio
  let exponent := leadingExponent num den - (count - 1 : Nat)
  let below := num * Nat.pow 10 (-exponent).toNat / (den * Nat.pow 10 exponent.toNat)
  let lower : Decimal := ⟨below, exponent⟩
  let upper : Decimal := ⟨below + 1, exponent⟩
  let interval := Interval.of x
  match interval.distance? lower, interval.distance? upper with
  | some a, some b => some (if a < b ∨ (a = b ∧ below % 2 = 0) then lower else upper)
  | some _, none => some lower
  | none, some _ => some upper
  | none, none => none

/-- A decimal without zeros at its end. -/
def trimZeros (fuel : Nat) (decimal : Decimal) : Decimal :=
  match fuel with
  | 0 => decimal
  | fuel + 1 =>
    if decimal.digits % 10 == 0 then trimZeros fuel ⟨decimal.digits / 10, decimal.exponent + 1⟩
    else decimal

/-- The shortest decimal of a number other than zero; seventeen digits always suffice. -/
def shortest (x : Binary64) : Decimal :=
  let counts := (List.range 17).map (· + 1)
  trimZeros 18 ((counts.findSome? (withDigits? x)).getD ⟨0, 0⟩)

/-! ## Layout -/

/-- How numbers are laid out. -/
structure Layout where
  /-- exponents of the first digit that are written without an exponent -/
  leastPlain : Int
  greatestPlain : Int

/-- Zeros in a row. -/
def zeros (count : Nat) : String :=
  String.ofList (List.replicate count '0')

/-- A decimal with a point and at least one digit behind it, or with an exponent that always
shows its sign. -/
def text (layout : Layout) (decimal : Decimal) : String :=
  let digits := Nat.toDigits 10 decimal.digits
  let leading : Int := decimal.exponent + (digits.length - 1 : Nat)
  if layout.leastPlain ≤ leading ∧ leading ≤ layout.greatestPlain then
    if leading < 0 then "0." ++ zeros (-leading - 1).toNat ++ String.ofList digits
    else
      let whole := leading.toNat + 1
      let after := String.ofList (digits.drop whole)
      String.ofList (digits.take whole) ++ zeros (whole - digits.length)
        ++ "." ++ (if after.isEmpty then "0" else after)
  else
    let after := String.ofList (digits.drop 1)
    String.ofList (digits.take 1) ++ (if after.isEmpty then "" else "." ++ after)
      ++ "e" ++ (if leading < 0 then "-" else "+") ++ toString leading.natAbs

/-- The text of a number. -/
def textOf (layout : Layout) (negative : Bool) (x : Binary64) : String :=
  (if negative then "-" else "") ++ (if x.isZero then "0.0" else text layout (shortest x))

end Decimal

/-! ## Fixed places -/

/-- A number with two digits behind the point, a tie going to the even neighbour. -/
def Binary64.hundredths (x : Binary64) : String :=
  let units := roundEven (x.ratio.1 * 100) x.ratio.2
  let behind := toString (units % 100)
  toString (units / 100) ++ "." ++ Decimal.zeros (2 - behind.length) ++ behind

end Linguist
