import Linguist.Json.Cursor
import Linguist.Number.Shortest

/-!
# Linguist — reading the numbers of a JSON document

No catalogue holds a number, so one is read only to say what stands where a text
should, or to be passed over. Its digits are kept as long as they fit into
sixty-four bits; later digits before the point raise the power of ten, later
ones behind it are dropped. A number with a point, an exponent or too many
digits is computed in binary64, from the digits by one multiplication with or
division by the power of ten.

* `Decoder.number` reads a number, `Number.kind` says what it is.
* `Decoder.skipNumber` passes over one.
-/

namespace Linguist.Json

/-! ## Values -/

/-- A number of a document. -/
inductive Number where
  | integer (value : Int)
  | float (negative : Bool) (magnitude : Binary64)
  deriving Repr, DecidableEq

/-- Numbers are written plainly if the first digit stands for `10 ^ -5` to `10 ^ 15`. -/
def numberLayout : Decimal.Layout where
  leastPlain := -5
  greatestPlain := 15

/-- What stands in the place of a number. -/
def Number.kind : Number → Kind
  | .integer value => .integer value
  | .float negative magnitude => .float (Decimal.textOf numberLayout negative magnitude)

/-- Exponents are below this. -/
def exponentLimit : Nat :=
  0x80000000

/-- The power of ten up to which one operation is enough. -/
def powerLimit : Nat :=
  308

/-- A power of ten in binary64. -/
def powerOfTen (n : Nat) : Binary64 :=
  (Binary64.ofRatio? (Nat.pow 10 n) 1).getD .zero

/-- Divides by a power of ten, in steps that are powers of the format. -/
def dividePower (x : Binary64) (n : Nat) : Binary64 :=
  if n ≤ powerLimit then (x.div? (powerOfTen n)).getD .zero
  else if x.isZero then x
  else dividePower ((x.div? (powerOfTen powerLimit)).getD .zero) (n - powerLimit)
termination_by n
decreasing_by simp only [powerLimit] at *; omega

/-- The number `digits · 10 ^ exponent`, unless it is too large. -/
def scaled? (digits : Nat) (exponent : Int) : Option Binary64 :=
  let x := (Binary64.ofRatio? digits 1).getD .zero
  if exponent < 0 then some (dividePower x (-exponent).toNat)
  else if exponent ≤ powerLimit then x.mul? (powerOfTen exponent.toNat)
  else if x.isZero then some x
  else none

/-! ## Digits -/

/-- A digit of ten. -/
def isDigit (b : UInt8) : Bool :=
  0x30 ≤ b && b ≤ 0x39

/-- The value of a digit. -/
def digitValue (b : UInt8) : Nat :=
  b.toNat - 0x30

/-- Appends digits while the number fits into a word; also how many were appended. -/
def appendDigits (value : Nat) : List UInt8 → Nat × Nat
  | [] => (value, 0)
  | b :: rest =>
    let next := value * 10 + digitValue b
    if next < Numeral.limit64 then
      let (value, count) := appendDigits next rest
      (value, count + 1)
    else (value, 0)

/-- The digits of an exponent; `none` at the digit that makes it too large. -/
def exponentDigits (value : Nat) : Bytes → Option Nat × Bytes
  | [] => (some value, [])
  | b :: rest =>
    if isDigit b then
      let next := value * 10 + digitValue b
      if next < exponentLimit then exponentDigits next rest else (none, rest)
    else (some value, b :: rest)

/-! ## Decoders -/

namespace Decoder

/-- All digits from here on. -/
def digits : Decoder Bytes := fun cursor =>
  let rest := cursor.rest.dropWhile isDigit
  .ok (cursor.rest.takeWhile isDigit) ⟨rest, !rest.isEmpty⟩

/-- Whether one of some characters stands here. -/
def looksAt (chars : List Char) : Decoder Bool := do
  return match ← peek with
    | some b => chars.contains (Char.ofNat b.toNat)
    | none => false

/-- Whether a digit stands here. -/
def looksAtDigit : Decoder Bool := do
  return match ← peek with
    | some b => isDigit b
    | none => false

/-- A digit must follow. -/
def firstDigit : Decoder UInt8 := do
  match ← next with
  | none => fail .endInValue
  | some b => if isDigit b then return b else fail .invalidNumber

/-- The number from its parts. -/
def float (negative : Bool) (value : Nat) (exponent : Int) : Decoder Number := do
  match scaled? value exponent with
  | some x => return .float negative x
  | none => fail .numberOutOfRange

/-- The number with an exponent, which stands here. -/
def withExponent (negative : Bool) (value : Nat) (shift : Int) : Decoder Number := do
  eat
  let isNegative ← looksAt ['-']
  if ← looksAt ['+', '-'] then eat
  let first ← firstDigit
  let read : Decoder (Option Nat) := fun cursor =>
    let (exponent, rest) := exponentDigits (digitValue first) cursor.rest
    .ok exponent ⟨rest, exponent.isSome && !rest.isEmpty⟩
  match ← read with
  | some exponent => float negative value (if isNegative then shift - exponent else shift + exponent)
  | none =>
    if value != 0 && !isNegative then fail .numberOutOfRange
    else
      discard digits
      return .float negative .zero

/-- The number with or without an exponent. -/
def maybeExponent (negative : Bool) (value : Nat) (shift : Int) : Decoder Number := do
  if ← looksAt ['e', 'E'] then withExponent negative value shift else float negative value shift

/-- The number with what stands behind its point, which stands here. -/
def withFraction (negative : Bool) (value : Nat) (shift : Nat) : Decoder Number := do
  eat
  let behind ← digits
  if behind.isEmpty then
    match ← peek with
    | some _ => fail .invalidNumber
    | none => fail .endInValue
  else
    let (value, count) := appendDigits value behind
    maybeExponent negative value (shift - count)

/-- An integer, or what is written like one and is too large. Zero with a sign is no integer. -/
def wholeNumber (negative : Bool) (value : Nat) (shift : Nat) : Decoder Number :=
  if 0 < shift then float negative value shift
  else if !negative then pure (.integer value)
  else if 0 < value ∧ 2 * value ≤ Numeral.limit64 then pure (.integer (-value))
  else float true value 0

/-- A number behind its sign. -/
def number (negative : Bool) : Decoder Number := do
  let first ← firstDigit
  if digitValue first = 0 then
    if ← looksAtDigit then fail .invalidNumber
  let more ← digits
  let (value, count) := appendDigits (digitValue first) more
  let shift := more.length - count
  if ← looksAt ['.'] then withFraction negative value shift
  else if ← looksAt ['e', 'E'] then withExponent negative value shift
  else wholeNumber negative value shift

/-! ## Passing over -/

/-- A digit must follow; at the end of the document too that is a fault of the number. -/
def skipFirstDigit : Decoder UInt8 := do
  match ← next with
  | some b => if isDigit b then return b else fail .invalidNumber
  | none => fail .invalidNumber

/-- Passes over an exponent if one stands here. -/
def skipExponent : Decoder Unit := do
  if ← looksAt ['e', 'E'] then
    eat
    if ← looksAt ['+', '-'] then eat
    discard skipFirstDigit
    discard digits

/-- Passes over a number behind its sign. -/
def skipNumber : Decoder Unit := do
  let first ← skipFirstDigit
  if digitValue first = 0 then
    if ← looksAtDigit then fail .invalidNumber
  else discard digits
  if ← looksAt ['.'] then
    eat
    if (← digits).isEmpty then fail .invalidNumber
  skipExponent

end Decoder

end Linguist.Json
