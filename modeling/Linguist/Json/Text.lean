import Linguist.Json.Cursor

/-!
# Linguist — reading the texts of a JSON document

The bytes behind the opening mark are taken one by one up to the closing mark.
Bytes stand for themselves, except after a backslash; control characters must be
escaped. A character beyond the first 65536 is escaped as two surrogates, which
must stand together. Only a text that is wanted is checked for surrogates and
for UTF-8: one that is passed over just has to be closed.

* `TextState.step` takes one byte, `readText` all up to the closing mark.
* `Decoder.text` is a wanted text, `Decoder.skipText` one to pass over.
-/

namespace Linguist.Json

/-! ## The machine -/

/-- Where in a text the reader stands. -/
inductive TextState where
  | plain
  /-- behind a backslash -/
  | escape
  /-- among the four digits of an escape; `lead` is the surrogate before it -/
  | digits (lead : Option Nat) (seen : List UInt8)
  /-- behind a first surrogate: the next escape has to follow -/
  | half (lead : Nat)
  /-- behind the backslash of that escape -/
  | halfEscape (lead : Nat)
  deriving Repr, DecidableEq

/-- What a byte does. -/
inductive TextStep where
  /-- these bytes belong to the text -/
  | go (bytes : Bytes) (state : TextState)
  | done
  | fault (fault : Fault)
  deriving Repr, DecidableEq

/-- The value of hexadecimal digits, the last one first. -/
def hexValue? : List UInt8 → Option Nat
  | [] => some 0
  | b :: before => do
    let high ← hexValue? before
    let digit ← Numeral.digit? 16 (Char.ofNat b.toNat)
    return high * 16 + digit

/-- The byte that a letter behind a backslash stands for. -/
def plainEscape? (b : UInt8) : Option UInt8 :=
  match Char.ofNat b.toNat with
  | '"' | '\\' | '/' => some b
  | 'b' => some 0x08
  | 'f' => some 0x0C
  | 'n' => some 0x0A
  | 'r' => some 0x0D
  | 't' => some 0x09
  | _ => none

/-- What an escape with a value stands for. -/
def TextStep.ofUnit (lead : Option Nat) (value : Nat) : TextStep :=
  let low := 0xDC00 ≤ value ∧ value ≤ 0xDFFF
  match lead with
  | some lead =>
    if low then
      let n := 0x10000 + (lead - 0xD800) * 0x400 + (value - 0xDC00)
      .go (Utf8.encodeChar (Char.ofNat n)) .plain
    else .fault .loneSurrogate
  | none =>
    if low then .fault .loneSurrogate
    else if 0xD800 ≤ value ∧ value ≤ 0xDBFF then .go [] (.half value)
    else .go (Utf8.encodeChar (Char.ofNat value)) .plain

/-- One byte; surrogates have to be in pairs if the text is `wanted`. -/
def TextState.step (wanted : Bool) (state : TextState) (b : UInt8) : TextStep :=
  match state with
  | .plain =>
    if b = 0x22 then .done
    else if b = 0x5C then .go [] .escape
    else if b < 0x20 then .fault .controlCharacter
    else .go [b] .plain
  | .escape =>
    if b = 0x75 then .go [] (.digits none [])
    else
      match plainEscape? b with
      | some byte => .go [byte] .plain
      | none => .fault .invalidEscape
  | .digits lead seen =>
    if seen.length < 3 then .go [] (.digits lead (b :: seen))
    else
      match hexValue? (b :: seen) with
      | none => .fault .invalidEscape
      | some value => if wanted then .ofUnit lead value else .go [] .plain
  | .half lead => if b = 0x5C then .go [] (.halfEscape lead) else .fault .surrogateCutOff
  | .halfEscape lead =>
    if b = 0x75 then .go [] (.digits (some lead) []) else .fault .surrogateCutOff

/-- The bytes of a text, the last one first, and what follows the closing mark; or a fault with
the number of bytes behind it. -/
def readText (wanted : Bool) (state : TextState) (soFar : Bytes) :
    Bytes → Except (Fault × Nat) (Bytes × Bytes)
  | [] => .error (.endInText, 0)
  | b :: rest =>
    match state.step wanted b with
    | .go bytes state => readText wanted state (bytes.reverse ++ soFar) rest
    | .done => .ok (soFar, rest)
    | .fault fault => .error (fault, rest.length)

/-! ## Decoders -/

namespace Decoder

/-- A text whose opening mark has been taken. One that is not UTF-8 is at fault as many bytes
before its end as are left of it, escapes replaced, from the malformed stretch on. -/
def text : Decoder String := fun cursor =>
  match readText true .plain [] cursor.rest with
  | .error (fault, unread) => .error ⟨fault, some unread⟩ cursor
  | .ok (bytes, rest) =>
    match Utf8.decode bytes.reverse with
    | .ok s => .ok s ⟨rest, false⟩
    | .error fault =>
      .error ⟨.invalidUtf8, some (rest.length + (bytes.length - fault.index))⟩ cursor

/-- Passes over a text whose opening mark has been taken. -/
def skipText : Decoder Unit := fun cursor =>
  match readText false .plain [] cursor.rest with
  | .error (fault, unread) => .error ⟨fault, some unread⟩ cursor
  | .ok (_, rest) => .ok () ⟨rest, false⟩

end Decoder

end Linguist.Json
