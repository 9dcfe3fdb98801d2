/-!
# Linguist — text as UTF-8 bytes

Documents arrive and leave as bytes; inside the library a text is a `String`.
Reading walks over the bytes once and cuts them into *pieces*: a character, a
stretch no character can be made of, or the beginning of a character that the
bytes end in. A malformed stretch is maximal: it ends in front of the first
byte that could not have continued the character.

* `Utf8.encode` writes a text, `Utf8.pieces` reads it back piece by piece.
* `Utf8.decode` accepts well-formed bytes only and says where the fault is.
* `Utf8.decodeLossy` puts U+FFFD for each malformed stretch.
-/

namespace Linguist

/-- A stretch of a file or document, byte by byte. -/
abbrev Bytes := List UInt8

namespace Utf8

/-! ## Writing -/

/-- One to four bytes for a character. -/
def encodeChar (c : Char) : Bytes :=
  let n := c.toNat
  if n < 0x80 then [UInt8.ofNat n]
  else if n < 0x800 then [UInt8.ofNat (0xC0 + n / 64), UInt8.ofNat (0x80 + n % 64)]
  else if n < 0x10000 then
    [UInt8.ofNat (0xE0 + n / 4096), UInt8.ofNat (0x80 + n / 64 % 64), UInt8.ofNat (0x80 + n % 64)]
  else
    [UInt8.ofNat (0xF0 + n / 262144), UInt8.ofNat (0x80 + n / 4096 % 64),
      UInt8.ofNat (0x80 + n / 64 % 64), UInt8.ofNat (0x80 + n % 64)]

/-- The bytes of a list of characters. -/
def encodeChars (cs : List Char) : Bytes :=
  cs.flatMap encodeChar

/-- The bytes of a text. -/
def encode (s : String) : Bytes :=
  encodeChars s.toList

@[simp] theorem encodeChars_nil : encodeChars [] = [] := rfl

@[simp] theorem encodeChars_append (a b : List Char) :
    encodeChars (a ++ b) = encodeChars a ++ encodeChars b := by
  simp [encodeChars]

@[simp] theorem encode_append (s t : String) : encode (s ++ t) = encode s ++ encode t := by
  simp [encode]

/-! ## Reading -/

/-- What a stretch of bytes stands for. -/
inductive Piece where
  | char (c : Char)
  /-- `length` bytes that begin no character -/
  | malformed (length : Nat)
  /-- the bytes end inside a character -/
  | cut
  deriving Repr, DecidableEq

/-- Where the reader stands. -/
inductive State where
  | start
  /-- inside a character: `seen` bytes read, `more` to come, `bits` so far, bounds of the next byte -/
  | inside (seen more bits low high : Nat)
  deriving Repr, DecidableEq

/-- The first byte of a character: the pieces it completes and the state it leaves. -/
def enter (b : Nat) : List Piece × State :=
  if b < 0x80 then ([.char (Char.ofNat b)], .start)
  else if b < 0xC2 then ([.malformed 1], .start)
  else if b < 0xE0 then ([], .inside 1 1 (b - 0xC0) 0x80 0xBF)
  else if b < 0xF0 then
    ([], .inside 1 2 (b - 0xE0) (if b = 0xE0 then 0xA0 else 0x80) (if b = 0xED then 0x9F else 0xBF))
  else if b < 0xF5 then
    ([], .inside 1 3 (b - 0xF0) (if b = 0xF0 then 0x90 else 0x80) (if b = 0xF4 then 0x8F else 0xBF))
  else ([.malformed 1], .start)

/-- One byte: a byte that cannot continue the character ends the malformed stretch before it. -/
def State.next (s : State) (b : Nat) : List Piece × State :=
  match s with
  | .start => enter b
  | .inside seen more bits low high =>
    if low ≤ b ∧ b ≤ high then
      let bits := bits * 64 + (b - 0x80)
      if more ≤ 1 then ([.char (Char.ofNat bits)], .start)
      else ([], .inside (seen + 1) (more - 1) bits 0x80 0xBF)
    else
      let (pieces, s) := enter b
      (.malformed seen :: pieces, s)

/-- The pieces of bytes read from a state on. -/
def piecesFrom : State → Bytes → List Piece
  | .start, [] => []
  | .inside .., [] => [.cut]
  | s, b :: rest => (s.next b.toNat).1 ++ piecesFrom (s.next b.toNat).2 rest

/-- The pieces of a byte sequence. -/
def pieces (bytes : Bytes) : List Piece :=
  piecesFrom .start bytes

/-- Why bytes are no text; `index` counts the bytes before the fault. -/
inductive Fault where
  | invalid (length index : Nat)
  | incomplete (index : Nat)
  deriving Repr, DecidableEq

/-- How many bytes stand before the fault. -/
def Fault.index : Fault → Nat
  | .invalid _ index | .incomplete index => index

/-- The wording of a fault. -/
def Fault.message : Fault → String
  | .invalid length index => s!"invalid utf-8 sequence of {length} bytes from index {index}"
  | .incomplete index => s!"incomplete utf-8 byte sequence from index {index}"

/-- The characters of pieces that are all characters, the first of them at byte `index`. -/
def charsOfPieces (index : Nat) : List Piece → Except Fault (List Char)
  | [] => .ok []
  | .char c :: rest => (c :: ·) <$> charsOfPieces (index + c.utf8Size) rest
  | .malformed length :: _ => .error (.invalid length index)
  | .cut :: _ => .error (.incomplete index)

/-- The text of well-formed bytes, or the first fault. -/
def decode (bytes : Bytes) : Except Fault String :=
  String.ofList <$> charsOfPieces 0 (pieces bytes)

/-- A character for each piece, U+FFFD where there is none. -/
def Piece.charLossy : Piece → Char
  | .char c => c
  | .malformed _ | .cut => '\uFFFD'

/-- The text of any bytes. -/
def decodeLossy (bytes : Bytes) : String :=
  String.ofList ((pieces bytes).map Piece.charLossy)

/-- The text of well-formed bytes, and the empty text for any other. -/
def decodeOrEmpty (bytes : Bytes) : String :=
  match decode bytes with
  | .ok s => s
  | .error _ => ""

end Utf8

end Linguist
