import Linguist.Text.Blank
import Linguist.Text.Utf8

/-!
# Linguist — attributes of a tag

A tag is its bytes between the angle brackets. After the name come attributes,
each a key, `=` and a quoted value; they are read from the left, and what stands
behind the first fault is not known. Positions count from the first byte of the
name.

* `Attributes.scan` is a walk over the bytes, one state change a byte.
* A key is compared with the earlier ones before its value is looked at.
-/

namespace Linguist.Xml

/-- Why the attributes of a tag cannot be read on. -/
inductive AttributeFault where
  /-- a key that is not followed by `=`, at the byte that stands there instead -/
  | expectedEquals (position : Nat)
  /-- nothing after `=` -/
  | expectedValue (position : Nat)
  | unquotedValue (position : Nat)
  | unclosedQuote (position : Nat) (quote : UInt8)
  | duplicated (position previous : Nat)
  deriving Repr, DecidableEq

/-- The wording of a fault. -/
def AttributeFault.message : AttributeFault → String
  | .expectedEquals position =>
    s!"position {position}: attribute key must be directly followed by `=` or space"
  | .expectedValue position => s!"position {position}: `=` must be followed by an attribute value"
  | .unquotedValue position =>
    s!"position {position}: attribute value must be enclosed in `\"` or `'`"
  | .unclosedQuote position quote =>
    let mark := if quote = 0x22 then "\"" else "'"
    s!"position {position}: missing closing quote `{mark}` in attribute value"
  | .duplicated position previous =>
    s!"position {position}: duplicated attribute, previous declaration at position {previous}"

/-- A key and the bytes between the quotes. -/
structure Attribute where
  key : Bytes
  value : Bytes
  deriving Repr, DecidableEq

/-- The attributes up to the first fault. -/
structure Attributes where
  items : List Attribute
  fault : Option AttributeFault
  deriving Repr, DecidableEq

namespace Attributes

/-- Where the walk stands; collected bytes are kept last first. -/
inductive State where
  | between
  | inKey (start : Nat) (key : Bytes)
  /-- blanks after a key -/
  | afterKey (start : Nat) (key : Bytes)
  | afterEquals (key : Bytes)
  | quoted (quote : UInt8) (key : Bytes) (value : Bytes)
  deriving Repr, DecidableEq

/-- What a byte of a tag leads to. -/
inductive Step where
  | move (state : State)
  /-- the `=` after a key that started at `start` -/
  | equals (start : Nat) (key : Bytes)
  | complete (item : Attribute)
  | fault (fault : AttributeFault)
  deriving Repr, DecidableEq

/-- One byte, at position `offset`. -/
def State.next (offset : Nat) (b : UInt8) : State → Step
  | .between => if isAsciiBlank b then .move .between else .move (.inKey offset [b])
  | .inKey start key =>
    if b = 0x3D then .equals start key.reverse
    else if isAsciiBlank b then .move (.afterKey start key.reverse)
    else .move (.inKey start (b :: key))
  | .afterKey start key =>
    if b = 0x3D then .equals start key
    else if isAsciiBlank b then .move (.afterKey start key)
    else .fault (.expectedEquals offset)
  | .afterEquals key =>
    if b = 0x22 ∨ b = 0x27 then .move (.quoted b key [])
    else if isAsciiBlank b then .move (.afterEquals key)
    else .fault (.unquotedValue offset)
  | .quoted quote key value =>
    if b = quote then .complete ⟨key, value.reverse⟩ else .move (.quoted quote key (b :: value))

/-- The end of the tag at position `offset`. -/
def State.finish (offset : Nat) : State → Option AttributeFault
  | .between => none
  | .inKey .. | .afterKey .. => some (.expectedEquals offset)
  | .afterEquals _ => some (.expectedValue offset)
  | .quoted quote .. => some (.unclosedQuote offset quote)

/-- The attributes read from a state on; `seen` holds the earlier keys and their positions. -/
def scanFrom (seen : List (Bytes × Nat)) (offset : Nat) (state : State) : Bytes → Attributes
  | [] => ⟨[], state.finish offset⟩
  | b :: rest =>
    match state.next offset b with
    | .move state => scanFrom seen (offset + 1) state rest
    | .equals start key =>
      match seen.find? (·.1 == key) with
      | some (_, previous) => ⟨[], some (.duplicated start previous)⟩
      | none => scanFrom (seen ++ [(key, start)]) (offset + 1) (.afterEquals key) rest
    | .complete item =>
      let after := scanFrom seen (offset + 1) .between rest
      ⟨item :: after.items, after.fault⟩
    | .fault fault => ⟨[], some fault⟩

/-- The attributes in the bytes after a name of `offset` bytes. -/
def scan (offset : Nat) (bytes : Bytes) : Attributes :=
  scanFrom [] offset .between bytes

/-- The value of a key: a fault matters only if the key does not stand before it. -/
def find (attributes : Attributes) (key : Bytes) : Except AttributeFault (Option Bytes) :=
  match attributes.items.find? (·.key == key) with
  | some item => .ok (some item.value)
  | none =>
    match attributes.fault with
    | some fault => .error fault
    | none => .ok none

end Attributes

/-- What stands between `<` and `>`, without the slash of a self-closed tag. -/
structure Tag where
  content : Bytes
  deriving Repr, DecidableEq

namespace Tag

/-- The bytes up to the first blank. -/
def name (tag : Tag) : Bytes :=
  tag.content.takeWhile (!isAsciiBlank ·)

/-- The name as text, with U+FFFD for what is none. -/
def label (tag : Tag) : String :=
  Utf8.decodeLossy tag.name

/-- The attributes after the name. -/
def attributes (tag : Tag) : Attributes :=
  Attributes.scan tag.name.length (tag.content.drop tag.name.length)

end Tag

end Linguist.Xml
