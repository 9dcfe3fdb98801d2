import Linguist.Json.Skip

/-!
# Linguist — reading JSON values of known types

A decoder knows what it wants: a text, a list of something, a record, a case of
several. A record stands as an object with its fields as members in any order,
others being passed over, or as a list of its fields in their order. Fields that
are not required may be missing.

* `Decoder.string`, `Decoder.boolean`, `Decoder.optional`, `Decoder.list` and `Decoder.caseOf`
  read values.
* `Record.decode` reads a record.
-/

namespace Linguist.Json

namespace Decoder

variable {α : Type}

/-! ## Simple values -/

/-- What stands here, where `expected` should. -/
def found (b : UInt8) : Decoder Kind := do
  match Char.ofNat b.toNat with
  | 'n' => eat; word ['u', 'l', 'l']; return .null
  | 't' => eat; word ['r', 'u', 'e']; return .bool true
  | 'f' => eat; word ['a', 'l', 's', 'e']; return .bool false
  | '-' => eat; return (← number true).kind
  | '"' => eat; return .text (← text)
  | '[' => return .list
  | '\x7b' => return .object
  | _ => if isDigit b then return (← number false).kind else fail .expectedValue

/-- Fails for what stands here. -/
def mismatch (b : UInt8) (expected : String) : Decoder α := do
  let kind ← found b
  fail (.wrongKind kind expected)

/-- A text. -/
def string : Decoder String := do
  let b ← start
  if b = 0x22 then
    eat
    text
  else mismatch b "a string"

/-- A truth value. -/
def boolean : Decoder Bool := do
  let b ← start
  if b = 0x74 then
    eat
    word ['r', 'u', 'e']
    return true
  else if b = 0x66 then
    eat
    word ['a', 'l', 's', 'e']
    return false
  else mismatch b "a boolean"

/-- Nothing. -/
def null : Decoder Unit := do
  let b ← start
  if b = 0x6E then
    eat
    word ['u', 'l', 'l']
  else mismatch b "unit"

/-- Something or nothing. -/
def optional (value : Decoder α) : Decoder (Option α) := do
  match ← skipBlanks with
  | some 0x6E =>
    eat
    word ['u', 'l', 'l']
    return none
  | _ => return some (← value)

/-! ## Lists -/

/-- Whether another item follows. -/
def hasItem (isFirst : Bool) : Decoder Bool := do
  match ← skipBlanks with
  | none => fail .endInList
  | some 0x5D => return false
  | some b =>
    if isFirst then return true
    else if b = 0x2C then
      eat
      match ← skipBlanks with
      | some 0x5D => fail .trailingComma
      | some _ => return true
      | none => fail .endInValue
    else fail .expectedListEnd

/-- The end of a list. -/
def closeList : Decoder Unit := do
  match ← skipBlanks with
  | none => fail .endInList
  | some 0x5D => eat
  | some 0x2C =>
    eat
    match ← skipBlanks with
    | some 0x5D => fail .trailingComma
    | _ => fail .trailingCharacters
  | some _ => fail .trailingCharacters

/-- The items of a list, at most `fuel` of them. -/
def items (item : Decoder α) (isFirst : Bool) : Nat → Decoder (List α)
  | 0 => pure []
  | fuel + 1 => do
    if ← hasItem isFirst then
      let a ← item
      return a :: (← items item false fuel)
    else return []

/-- A list. -/
def list (item : Decoder α) : Decoder (List α) := do
  let b ← start
  if b = 0x5B then
    eat
    enclosed (do items item true (← bound)) closeList
  else mismatch b "a sequence"

/-! ## Objects -/

/-- Whether another member follows; its opening mark has been looked at. -/
def hasMember (isFirst : Bool) : Decoder Bool := do
  match ← skipBlanks with
  | none => fail .endInObject
  | some 0x7D => return false
  | some b =>
    if isFirst then if b = 0x22 then return true else fail .keyNotText
    else if b = 0x2C then
      eat
      match ← skipBlanks with
      | some 0x22 => return true
      | some 0x7D => fail .trailingComma
      | some _ => fail .keyNotText
      | none => fail .endInValue
    else fail .expectedObjectEnd

/-- The name of the next member. -/
def name? (isFirst : Bool) : Decoder (Option String) := do
  if ← hasMember isFirst then
    eat
    return some (← text)
  else return none

/-- The end of an object. -/
def closeObject : Decoder Unit := do
  match ← skipBlanks with
  | none => fail .endInObject
  | some 0x7D => eat
  | some 0x2C => fail .trailingComma
  | some _ => fail .trailingCharacters

/-! ## Cases -/

/-- A name that is one of the cases. -/
def knownCase (cases : List String) (name : String) : Decoder String :=
  if name ∈ cases then return name else fail (.unknownCase name cases)

/-- One of several cases: an object with the name of the case and its content, or the bare name.
A bare name of a case with content leaves the place of its fault open. -/
def caseOf (cases : List String) (content : String → Decoder α) (bare : String → Option α) :
    Decoder α := do
  match ← start with
  | 0x7B =>
    eat
    match ← name? true with
    | none => fail .expectedValue
    | some name =>
      let name ← knownCase cases name
      colon
      let a ← content name
      match ← skipBlanks with
      | some 0x7D =>
        eat
        return a
      | some _ => fail .expectedValue
      | none => fail .endInObject
  | 0x22 =>
    eat
    let name ← knownCase cases (← text)
    match bare name with
    | some a => return a
    | none => raise (.wrongKind .bareCase "newtype variant")
  | _ => fail .expectedValue

end Decoder

/-! ## Records -/

/-- A field of a record of type `α`. -/
structure Field (α : Type) where
  name : String
  required : Bool := false
  /-- reads the value of the field into a record -/
  read : α → Decoder α

/-- A type of records. -/
structure Record (α : Type) where
  name : String
  fields : List (Field α)
  /-- the record without any field -/
  blank : α

namespace Record

open Decoder

variable {α : Type}

/-- What faults call a record. -/
def expected (record : Record α) : String :=
  "struct " ++ record.name

/-- What faults call a record as a list. -/
def expectedItems (record : Record α) : String :=
  let count := record.fields.length
  record.expected ++ s!" with {count} elements"

/-- The members of a record, at most `fuel` of them; `seen` are the names before. -/
def members (record : Record α) (a : α) (seen : List String) : Nat → Decoder α
  | 0 => pure a
  | fuel + 1 => do
    match ← name? seen.isEmpty with
    | none =>
      match record.fields.find? fun field => field.required && !seen.contains field.name with
      | some field => raise (.missingField field.name)
      | none => return a
    | some name =>
      match record.fields.find? (·.name == name) with
      | none =>
        colon
        skipValue
        record.members a (name :: seen) fuel
      | some field =>
        if seen.contains name then raise (.duplicateField name)
        else
          colon
          let a ← field.read a
          record.members a (name :: seen) fuel

/-- The fields of a record as items in their order; `index` of them stand before. -/
def itemsInOrder (record : Record α) (a : α) (index : Nat) : List (Field α) → Decoder α
  | [] => pure a
  | field :: fields => do
    if ← hasItem (index == 0) then
      let a ← field.read a
      record.itemsInOrder a (index + 1) fields
    else if field.required then raise (.wrongLength index record.expectedItems)
    else record.itemsInOrder a (index + 1) fields

/-- Reads a record. -/
def decode (record : Record α) : Decoder α := do
  let b ← start
  if b = 0x7B then
    eat
    enclosed (do record.members record.blank [] (← bound)) closeObject
  else if b = 0x5B then
    eat
    enclosed (record.itemsInOrder record.blank 0 record.fields) closeList
  else mismatch b record.expected

end Record

end Linguist.Json
