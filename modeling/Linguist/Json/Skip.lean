import Linguist.Json.Number
import Linguist.Json.Text

/-!
# Linguist — passing over JSON values

Members that nobody asked for are passed over, however deep they go. Only the
brackets that are still open are kept on the way.

* `Decoder.skipValue` passes over one value.
-/

namespace Linguist.Json

/-- What is open. -/
inductive Bracket where
  | list
  | object
  deriving Repr, DecidableEq

namespace Bracket

/-- The byte that closes it. -/
def closing : Bracket → UInt8
  | .list => 0x5D
  | .object => 0x7D

/-- The fault of a document that ends inside. -/
def cutOff : Bracket → Fault
  | .list => .endInList
  | .object => .endInObject

/-- The fault of anything else behind an item or member. -/
def unexpected : Bracket → Fault
  | .list => .expectedListEnd
  | .object => .expectedObjectEnd

end Bracket

namespace Decoder

/-- The colon behind a name. -/
def colon : Decoder Unit := do
  match ← skipBlanks with
  | some 0x3A => eat
  | some _ => fail .expectedColon
  | none => fail .endInObject

/-- Passes over a value without parts, or opens one with parts. -/
def skipFlat : Decoder (Option Bracket) := do
  let b ← start
  match Char.ofNat b.toNat with
  | 'n' => eat; word ['u', 'l', 'l']; return none
  | 't' => eat; word ['r', 'u', 'e']; return none
  | 'f' => eat; word ['a', 'l', 's', 'e']; return none
  | '-' => eat; skipNumber; return none
  | '"' => eat; skipText; return none
  | '[' => eat; return some .list
  | '\x7b' => eat; return some .object
  | _ =>
    if isDigit b then
      skipNumber
      return none
    else fail .expectedValue

/-- Closes what ends here, the innermost first, until something follows; a comma counts behind
an item or member only. -/
def skipClosings (behindItem : Bool) : List Bracket → Decoder (List Bracket)
  | [] => pure []
  | bracket :: outer => do
    match ← skipBlanks with
    | none => fail bracket.cutOff
    | some b =>
      if behindItem ∧ b = 0x2C then
        eat
        return bracket :: outer
      else if b = bracket.closing then
        eat
        skipClosings true outer
      else if behindItem then fail bracket.unexpected
      else return bracket :: outer

/-- The name of a member that is passed over. -/
def skipName : Decoder Unit := do
  match ← skipBlanks with
  | some 0x22 =>
    eat
    skipText
    colon
  | some _ => fail .keyNotText
  | none => fail .endInObject

/-- Passes over values until nothing is open, at most `fuel` of them. -/
def skipFrom : Nat → List Bracket → Decoder Unit
  | 0, _ => pure ()
  | fuel + 1, brackets => do
    let opened ← skipFlat
    match ← skipClosings opened.isNone (opened.toList ++ brackets) with
    | [] => pure ()
    | .list :: outer => skipFrom fuel (.list :: outer)
    | .object :: outer =>
      skipName
      skipFrom fuel (.object :: outer)

/-- Passes over a value. -/
def skipValue : Decoder Unit := do
  skipFrom (← bound) []

end Decoder

end Linguist.Json
