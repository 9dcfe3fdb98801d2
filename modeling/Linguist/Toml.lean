import Linguist.Text.Numeral
import Linguist.Text.Utf8

/-!
# Linguist — flat TOML documents

Settings stand in a TOML document that holds keys with truth values and texts,
one to a line, and comments. Tables, dotted keys and values of other types have
no place in it, so a document that holds any is refused like one that is no TOML
at all.

* `Toml.entries?` reads the keys and values of a document in order.
-/

namespace Linguist.Toml

/-- What a key is set to. -/
inductive Value where
  | bool (b : Bool)
  | text (s : String)
  deriving Repr, DecidableEq

/-! ## Characters -/

/-- A blank inside a line. -/
def isBlank (c : Char) : Bool :=
  c == ' ' || c == '\t'

/-- A character that may stand in a comment or a text: any but controls, except for the tab. -/
def isPlain (c : Char) : Bool :=
  c == '\t' || (0x20 ≤ c.toNat && c.toNat != 0x7F)

/-- A character of a key without marks. -/
def isBare (c : Char) : Bool :=
  c.isAlphanum || c == '_' || c == '-'

/-- The character an escape of one letter stands for. -/
def plainEscape? : Char → Option Char
  | 'b' => some '\x08'
  | 't' => some '\t'
  | 'n' => some '\n'
  | 'f' => some '\x0c'
  | 'r' => some '\r'
  | '"' => some '"'
  | '\\' => some '\\'
  | _ => none

/-- The character with a number in hexadecimal. -/
def charOfHex? (digits : List Char) : Option Char :=
  match Numeral.unsigned 16 Numeral.limit32 digits with
  | .ok n => if n.isValidChar then some (Char.ofNat n) else none
  | .error _ => none

/-! ## Texts -/

/-- A text and what stands behind its closing mark. -/
abbrev Read := Option (List Char × List Char)

/-- One more character in front of a text. -/
def Read.add (c : Char) (read : Read) : Read :=
  read.map fun (text, rest) => (c :: text, rest)

/-- One more character in front of a text, if there is one. -/
def Read.add? (c : Option Char) (read : Read) : Read :=
  c.bind read.add

/-- A text on one line in double marks. -/
def basic : List Char → Read
  | '"' :: rest => some ([], rest)
  | '\\' :: 'u' :: a :: b :: c :: d :: rest => (basic rest).add? (charOfHex? [a, b, c, d])
  | '\\' :: 'U' :: a :: b :: c :: d :: e :: f :: g :: h :: rest =>
    (basic rest).add? (charOfHex? [a, b, c, d, e, f, g, h])
  | '\\' :: c :: rest => (basic rest).add? (plainEscape? c)
  | c :: rest => if isPlain c && c != '\\' then (basic rest).add c else none
  | [] => none

/-- A text on one line in single marks, where nothing is escaped. -/
def literal : List Char → Read
  | '\'' :: rest => some ([], rest)
  | c :: rest => if isPlain c then (literal rest).add c else none
  | [] => none

/-- The end of a text on several lines: marks in front of the closing ones belong to the text,
two of them at most. -/
def closing (mark : Char) (rest : List Char) : Read :=
  match rest with
  | a :: b :: rest =>
    if a = mark ∧ b = mark then some ([mark, mark], rest)
    else if a = mark then some ([mark], b :: rest)
    else some ([], a :: b :: rest)
  | [a] => if a = mark then some ([mark], []) else some ([], [a])
  | [] => some ([], [])

/-- What a backslash at the end of a line passes over. -/
inductive Fold where
  | none
  /-- blanks up to the end of the line -/
  | line
  /-- blanks and line ends -/
  | all
  deriving Repr, DecidableEq

/-- A text on several lines in double marks. A backslash at the end of a line passes over the
blanks and line ends behind it. -/
def multiBasic (fold : Fold) : List Char → Read
  | '\r' :: '\n' :: rest =>
    match fold with
    | .none => (multiBasic .none rest).add '\n'
    | _ => multiBasic .all rest
  | '\n' :: rest =>
    match fold with
    | .none => (multiBasic .none rest).add '\n'
    | _ => multiBasic .all rest
  | '"' :: '"' :: '"' :: rest => if fold = .line then none else closing '"' rest
  | '\\' :: 'u' :: a :: b :: c :: d :: rest =>
    if fold = .line then none else (multiBasic .none rest).add? (charOfHex? [a, b, c, d])
  | '\\' :: 'U' :: a :: b :: c :: d :: e :: f :: g :: h :: rest =>
    if fold = .line then none
    else (multiBasic .none rest).add? (charOfHex? [a, b, c, d, e, f, g, h])
  | '\\' :: c :: rest =>
    if fold = .line then none
    else if isBlank c then multiBasic .line rest
    else if c = '\n' then multiBasic .all rest
    else if c = '\r' then if rest.head? = some '\n' then multiBasic .line rest else none
    else (multiBasic .none rest).add? (plainEscape? c)
  | c :: rest =>
    if isBlank c && fold != .none then multiBasic fold rest
    else if fold = .line || !isPlain c || c == '\\' then none
    else (multiBasic .none rest).add c
  | [] => none

/-- A text on several lines in single marks. -/
def multiLiteral : List Char → Read
  | '\r' :: '\n' :: rest => (multiLiteral rest).add '\n'
  | '\n' :: rest => (multiLiteral rest).add '\n'
  | '\'' :: '\'' :: '\'' :: rest => closing '\'' rest
  | c :: rest => if isPlain c then (multiLiteral rest).add c else none
  | [] => none

/-- A line end right behind the opening marks does not count. -/
def withoutFirstBreak : List Char → List Char
  | '\r' :: '\n' :: rest => rest
  | '\n' :: rest => rest
  | cs => cs

/-! ## Lines -/

/-- A key. -/
def key? : List Char → Read
  | '"' :: rest => basic rest
  | '\'' :: rest => literal rest
  | cs =>
    let key := cs.takeWhile isBare
    if key.isEmpty then none else some (key, cs.dropWhile isBare)

/-- A text as a value. -/
def ofRead (read : Read) : Option (Value × List Char) :=
  read.map fun (text, rest) => (.text (String.ofList text), rest)

/-- A value. -/
def value? : List Char → Option (Value × List Char)
  | 't' :: 'r' :: 'u' :: 'e' :: rest => some (.bool true, rest)
  | 'f' :: 'a' :: 'l' :: 's' :: 'e' :: rest => some (.bool false, rest)
  | '"' :: '"' :: '"' :: rest => ofRead (multiBasic .none (withoutFirstBreak rest))
  | '"' :: rest => ofRead (basic rest)
  | '\'' :: '\'' :: '\'' :: rest => ofRead (multiLiteral (withoutFirstBreak rest))
  | '\'' :: rest => ofRead (literal rest)
  | _ => none

/-- What stands behind the end of a line, of which only blanks and a comment may be left. -/
def nextLine? (cs : List Char) : Option (List Char) :=
  let cs := cs.dropWhile isBlank
  let cs := if cs.head? = some '#' then cs.dropWhile isPlain else cs
  match cs with
  | [] => some []
  | '\n' :: rest => some rest
  | '\r' :: '\n' :: rest => some rest
  | _ => none

/-- A key, its value and what stands behind the line. -/
def entry? (cs : List Char) : Option ((String × Value) × List Char) := do
  let (key, rest) ← key? cs
  match rest.dropWhile isBlank with
  | '=' :: rest =>
    let (value, rest) ← value? (rest.dropWhile isBlank)
    let rest ← nextLine? rest
    return ((String.ofList key, value), rest)
  | _ => none

/-- The entries of at most `fuel` lines. -/
def entriesFrom : Nat → List Char → Option (List (String × Value))
  | 0, _ => some []
  | _, [] => some []
  | fuel + 1, cs =>
    match nextLine? cs with
    | some rest => entriesFrom fuel rest
    | none =>
      match entry? (cs.dropWhile isBlank) with
      | none => none
      | some (entry, rest) => (entriesFrom fuel rest).map (entry :: ·)

/-- The entries of a document; a byte order mark in front of it does not count. -/
def entries? (document : String) : Option (List (String × Value)) :=
  let cs := document.toList
  let cs := if cs.head? = some '\uFEFF' then cs.drop 1 else cs
  entriesFrom (cs.length + 1) cs

end Linguist.Toml
