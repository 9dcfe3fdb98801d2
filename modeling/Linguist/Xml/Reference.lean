import Linguist.Text.Numeral

/-!
# Linguist — references in character data

Markup spells five characters by name and any character by number. Writing
uses the names only; reading resolves names and numbers, from the left, and
the first reference that cannot be resolved is the fault.

* `escape` writes `<`, `>`, `&`, `'` and `"` by name.
* `resolve` replaces every reference by its character.
-/

namespace Linguist.Xml

/-! ## Faults -/

/-- Why a reference by number names no character. -/
inductive CharRefFault where
  | sign
  | numeral (fault : Numeral.Fault)
  | notScalar (number : Nat)
  | nul
  deriving Repr, DecidableEq

/-- The wording of a fault. -/
def CharRefFault.message : CharRefFault → String
  | .sign => "unexpected number sign"
  | .numeral fault => fault.message
  | .notScalar number => s!"`{number}` is not a valid codepoint"
  | .nul => "0x0 character is not permitted in XML"

/-- Why character data cannot be resolved; `start` and `stop` count its bytes. -/
inductive ReferenceFault where
  | unterminated (start stop : Nat)
  | unknown (start stop : Nat) (name : String)
  | charRef (fault : CharRefFault)
  deriving Repr, DecidableEq

/-- The wording of a fault. -/
def ReferenceFault.message : ReferenceFault → String
  | .unterminated start stop =>
    s!"Error while escaping character at range {start}..{stop}: Cannot find ';' after '&'"
  | .unknown start stop name => s!"at {start}..{stop}: unrecognized entity `{name}`"
  | .charRef fault => "invalid character reference: " ++ fault.message

/-! ## Writing -/

/-- A character as it stands in character data and attribute values. -/
def escapeChar (c : Char) : List Char :=
  match c with
  | '<' => "&lt;".toList
  | '>' => "&gt;".toList
  | '&' => "&amp;".toList
  | '\'' => "&apos;".toList
  | '"' => "&quot;".toList
  | c => [c]

/-- Characters with the five special ones written by name. -/
def escapeChars (cs : List Char) : List Char :=
  cs.flatMap escapeChar

/-- A text with the five special characters written by name. -/
def escape (s : String) : String :=
  String.ofList (escapeChars s.toList)

/-! ## Reading -/

/-- Whether a number is a Unicode scalar value. -/
def isScalar (n : Nat) : Bool :=
  n < 0xD800 || (0xDFFF < n && n < 0x110000)

/-- The character of a reference by number, the number sign left out. -/
def charRef (cs : List Char) : Except CharRefFault Char :=
  let (radix, digits) := match cs with
    | 'x' :: rest => (16, rest)
    | cs => (10, cs)
  match digits with
  | '+' :: _ | '-' :: _ => .error .sign
  | digits =>
    match Numeral.unsigned radix Numeral.limit32 digits with
    | .error fault => .error (.numeral fault)
    | .ok n =>
      if n = 0 then .error .nul
      else if isScalar n then .ok (Char.ofNat n)
      else .error (.notScalar n)

/-- The five characters that have names. -/
def named? (name : List Char) : Option Char :=
  if name = "lt".toList then some '<'
  else if name = "gt".toList then some '>'
  else if name = "amp".toList then some '&'
  else if name = "apos".toList then some '\''
  else if name = "quot".toList then some '"'
  else none

/-- The character of a reference whose name starts at byte `start` and ends before `stop`. -/
def resolveName (start stop : Nat) (name : List Char) : Except ReferenceFault Char :=
  match name with
  | '#' :: number => (charRef number).mapError .charRef
  | name =>
    match named? name with
    | some c => .ok c
    | none => .error (.unknown start stop (String.ofList name))

/-- Resolves what follows byte `offset` of data that ends at byte `total`. Inside a reference,
`pending` holds the byte of its `&` and the name read so far, last character first. -/
def resolveFrom (total : Nat) (offset : Nat) (pending : Option (Nat × List Char)) :
    List Char → Except ReferenceFault (List Char)
  | [] =>
    match pending with
    | none => .ok []
    | some (start, _) => .error (.unterminated start total)
  | c :: rest =>
    match pending with
    | none =>
      if c = '&' then resolveFrom total (offset + 1) (some (offset, [])) rest
      else (c :: ·) <$> resolveFrom total (offset + c.utf8Size) none rest
    | some (start, name) =>
      if c = ';' then
        match resolveName (start + 1) offset name.reverse with
        | .error fault => .error fault
        | .ok d => (d :: ·) <$> resolveFrom total (offset + 1) none rest
      else if c = '&' then .error (.unterminated start total)
      else resolveFrom total (offset + c.utf8Size) (some (start, c :: name)) rest

/-- A text with its references replaced. -/
def resolve (s : String) : Except ReferenceFault String :=
  String.ofList <$> resolveFrom s.utf8ByteSize 0 none s.toList

end Linguist.Xml
