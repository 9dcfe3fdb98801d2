import Linguist.Text.Quoted
import Linguist.Text.Utf8

/-!
# Linguist — why a JSON document is refused

A fault tells what was found and what the document should have held there.
Where it is found is told by line and column: the bytes of the line that had
been read, one that was only looked at included.

* `Fault.message` words a fault, `Refusal.message` adds the place.
-/

namespace Linguist.Json

/-- What stands where something else should. -/
inductive Kind where
  | null
  | bool (b : Bool)
  | integer (value : Int)
  /-- a number with a point or an exponent, or too large for an integer, as it is written -/
  | float (written : String)
  | text (s : String)
  | list
  | object
  /-- the bare name of a case that holds a value -/
  | bareCase
  deriving Repr, DecidableEq

/-- The wording of a kind. -/
def Kind.message : Kind → String
  | .null => "null"
  | .bool b => "boolean `" ++ toString b ++ "`"
  | .integer value => "integer `" ++ toString value ++ "`"
  | .float written => "floating point `" ++ written ++ "`"
  | .text s => "string " ++ Quoted.text s
  | .list => "sequence"
  | .object => "map"
  | .bareCase => "unit variant"

/-- What is wrong with a document. -/
inductive Fault where
  | endInValue
  | endInList
  | endInObject
  | endInText
  | expectedValue
  | expectedWord
  | expectedColon
  | expectedListEnd
  | expectedObjectEnd
  | trailingComma
  | trailingCharacters
  | keyNotText
  | invalidNumber
  | numberOutOfRange
  | invalidEscape
  | controlCharacter
  | invalidUtf8
  /-- a surrogate without the other half -/
  | loneSurrogate
  /-- no escape behind the first half of a surrogate pair -/
  | surrogateCutOff
  | wrongKind (found : Kind) (expected : String)
  | unknownCase (name : String) (cases : List String)
  | duplicateField (name : String)
  | missingField (name : String)
  | wrongLength (length : Nat) (expected : String)
  deriving Repr, DecidableEq

/-- A name as the wording of a fault shows it. -/
def ticked (name : String) : String :=
  "`" ++ name ++ "`"

/-- The names of cases in the wording of a fault. -/
def oneOf : List String → String
  | [a, b] => ticked a ++ " or " ++ ticked b
  | cases => "one of " ++ String.intercalate ", " (cases.map ticked)

/-- The wording of a fault. -/
def Fault.message : Fault → String
  | .endInValue => "EOF while parsing a value"
  | .endInList => "EOF while parsing a list"
  | .endInObject => "EOF while parsing an object"
  | .endInText => "EOF while parsing a string"
  | .expectedValue => "expected value"
  | .expectedWord => "expected ident"
  | .expectedColon => "expected `:`"
  | .expectedListEnd => "expected `,` or `]`"
  | .expectedObjectEnd => "expected `,` or `\x7d`"
  | .trailingComma => "trailing comma"
  | .trailingCharacters => "trailing characters"
  | .keyNotText => "key must be a string"
  | .invalidNumber => "invalid number"
  | .numberOutOfRange => "number out of range"
  | .invalidEscape => "invalid escape"
  | .controlCharacter => "control character (\\u0000-\\u001F) found while parsing a string"
  | .invalidUtf8 => "invalid unicode code point"
  | .loneSurrogate => "lone leading surrogate in hex escape"
  | .surrogateCutOff => "unexpected end of hex escape"
  | .wrongKind found expected => "invalid type: " ++ found.message ++ ", expected " ++ expected
  | .unknownCase name cases => "unknown variant " ++ ticked name ++ ", expected " ++ oneOf cases
  | .duplicateField name => "duplicate field " ++ ticked name
  | .missingField name => "missing field " ++ ticked name
  | .wrongLength length expected => s!"invalid length {length}, expected " ++ expected

/-- A fault and its place. -/
structure Refusal where
  fault : Fault
  line : Nat
  column : Nat
  deriving Repr, DecidableEq

/-- A fault after which `unread` bytes of a document were left. -/
def Refusal.of (document : Bytes) (fault : Fault) (unread : Nat) : Refusal :=
  let read := document.take (document.length - unread)
  { fault
    line := 1 + read.count 0x0A
    column := (read.reverse.takeWhile (· != 0x0A)).length }

/-- The wording of a fault with its place. -/
def Refusal.message (refusal : Refusal) : String :=
  let line := refusal.line
  let column := refusal.column
  refusal.fault.message ++ s!" at line {line} column {column}"

end Linguist.Json
