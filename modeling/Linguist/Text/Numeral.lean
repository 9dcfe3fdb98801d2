/-!
# Linguist — written numbers

Unsigned numbers as they stand in character references, `<byte>` elements and
on the command line. Digits are read from the left, so the first fault decides:
a character that is no digit, or the digit that makes the number too large.
-/

namespace Linguist.Numeral

/-- Numbers of thirty-two bits are below this. -/
def limit32 : Nat :=
  0x100000000

/-- Numbers of sixty-four bits are below this. -/
def limit64 : Nat :=
  0x10000000000000000

/-- Why a text is no number. -/
inductive Fault where
  | empty
  | invalidDigit
  | tooLarge
  deriving Repr, DecidableEq

/-- The wording of a fault. -/
def Fault.message : Fault → String
  | .empty => "cannot parse integer from empty string"
  | .invalidDigit => "invalid digit found in string"
  | .tooLarge => "number too large to fit in target type"

/-- The value of a digit, capital or small. -/
def digit? (radix : Nat) (c : Char) : Option Nat :=
  let n := c.toNat
  let d? :=
    if 0x30 ≤ n ∧ n ≤ 0x39 then some (n - 0x30)
    else if 0x61 ≤ n ∧ n ≤ 0x7A then some (n - 0x61 + 10)
    else if 0x41 ≤ n ∧ n ≤ 0x5A then some (n - 0x41 + 10)
    else none
  d?.filter (· < radix)

/-- Digits read after `value`, as long as the number stays below `limit`. -/
def digits (radix limit : Nat) (value : Nat) : List Char → Except Fault Nat
  | [] => .ok value
  | c :: rest =>
    match digit? radix c with
    | none => .error .invalidDigit
    | some d =>
      if value * radix + d < limit then digits radix limit (value * radix + d) rest
      else .error .tooLarge

/-- A number below `limit` without a sign. -/
def unsigned (radix limit : Nat) : List Char → Except Fault Nat
  | [] => .error .empty
  | cs => digits radix limit 0 cs

/-- A number below `limit` that may carry a plus sign. -/
def signedPlus (radix limit : Nat) : List Char → Except Fault Nat
  | ['+'] => .error .invalidDigit
  | '+' :: cs => unsigned radix limit cs
  | cs => unsigned radix limit cs

/-- The hexadecimal digits of a number, small letters. -/
def hexChars (n : Nat) : List Char :=
  Nat.toDigits 16 n

/-- A number in hexadecimal. -/
def hex (n : Nat) : String :=
  String.ofList (hexChars n)

/-- A number in hexadecimal with at least `width` digits. -/
def hexPadded (width n : Nat) : String :=
  String.ofList (List.replicate (width - (hexChars n).length) '0') ++ hex n

end Linguist.Numeral
