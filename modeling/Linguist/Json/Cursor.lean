import Linguist.Json.Fault
import Linguist.Text.Blank

/-!
# Linguist — walking through a JSON document

A decoder reads a value of one type from a document, byte by byte. It may look
at one byte without taking it; such a byte counts as read when a fault is
placed. Some faults get their place only when what they stand in has been
closed, so a failure may be without one for a while.

* `Decoder` is a reading step, with `peek`, `next`, `eat` and `skipBlanks`.
* `Decoder.fail` places a fault here, `Decoder.raise` leaves the place open.
* `Decoder.run` applies a decoder to a whole document.
-/

namespace Linguist.Json

/-- Where a decoder stands. -/
structure Cursor where
  /-- what has not been taken -/
  rest : Bytes
  /-- whether the first byte of it has been looked at -/
  peeked : Bool := false
  deriving Repr, DecidableEq

/-- How many bytes have not been looked at. -/
def Cursor.unread (cursor : Cursor) : Nat :=
  cursor.rest.length - (if cursor.peeked then 1 else 0)

/-- A fault that may not have its place yet. -/
structure Failure where
  fault : Fault
  /-- how many bytes were unread -/
  unread : Option Nat
  deriving Repr, DecidableEq

/-- A failure without a place gets this one. -/
def Failure.placed (failure : Failure) (cursor : Cursor) : Failure :=
  { failure with unread := some (failure.unread.getD cursor.unread) }

/-- Reads a value. -/
abbrev Decoder := EStateM Failure Cursor

namespace Decoder

variable {α : Type}

/-! ## Faults -/

/-- Fails at this place. -/
def fail (fault : Fault) : Decoder α := fun cursor =>
  .error ⟨fault, some cursor.unread⟩ cursor

/-- Fails at a place that is found later. -/
def raise (fault : Fault) : Decoder α := fun cursor =>
  .error ⟨fault, none⟩ cursor

/-- Reads what stands between two brackets and the closing one. A failure inside goes first, but
gets its place after the closing bracket was looked for. -/
def enclosed (body : Decoder α) (close : Decoder Unit) : Decoder α := fun cursor =>
  match body cursor with
  | .ok a cursor =>
    match close cursor with
    | .ok _ cursor => .ok a cursor
    | .error failure cursor => .error (failure.placed cursor) cursor
  | .error failure cursor =>
    match close cursor with
    | .ok _ cursor | .error _ cursor => .error (failure.placed cursor) cursor

/-! ## Bytes -/

/-- The next byte, which stays. -/
def peek : Decoder (Option UInt8) := fun cursor =>
  match cursor.rest with
  | [] => .ok none cursor
  | b :: rest => .ok (some b) ⟨b :: rest, true⟩

/-- The next byte, which is taken. -/
def next : Decoder (Option UInt8) := fun cursor =>
  match cursor.rest with
  | [] => .ok none cursor
  | b :: rest => .ok (some b) ⟨rest, false⟩

/-- Takes a byte that has been looked at. -/
def eat : Decoder Unit := fun cursor =>
  .ok () ⟨cursor.rest.drop 1, false⟩

/-- Passes over blanks and looks at the byte behind them. -/
def skipBlanks : Decoder (Option UInt8) := fun cursor =>
  peek ⟨cursor.rest.dropWhile isAsciiBlank, false⟩

/-- Looks at the first byte of a value. -/
def start : Decoder UInt8 := do
  match ← skipBlanks with
  | some b => return b
  | none => fail .endInValue

/-- The rest of a word whose first letter told which it is. -/
def word : List Char → Decoder Unit
  | [] => pure ()
  | c :: cs => do
    match ← next with
    | none => fail .endInValue
    | some b => if b.toNat = c.toNat then word cs else fail .expectedWord

/-- How often a loop that takes a byte each time can run. -/
def bound : Decoder Nat := fun cursor =>
  .ok (cursor.rest.length + 1) cursor

/-! ## Documents -/

/-- Nothing but blanks. -/
def finish : Decoder Unit := do
  match ← skipBlanks with
  | some _ => fail .trailingCharacters
  | none => pure ()

/-- What a document holds. -/
def run (decoder : Decoder α) (document : Bytes) : Except Refusal α :=
  match (do let a ← decoder; finish; pure a : Decoder α) ⟨document, false⟩ with
  | .ok a _ => .ok a
  | .error failure cursor =>
    .error (.of document failure.fault (failure.unread.getD cursor.unread))

end Decoder

end Linguist.Json
