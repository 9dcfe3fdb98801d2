import Linguist.Text.Numeral

/-!
# Linguist — JSON values and their text

A value is written either without any blank, or with every item and member on a
line of its own, two blanks deeper than what holds it. An empty list or object
stays on its line. In texts the two marks, the backslash and the control
characters are escaped, and nothing else.

* `Value.render` writes a value in a layout.
-/

namespace Linguist.Json

/-- A JSON value; a number is kept as it is written. -/
inductive Value where
  | null
  | bool (b : Bool)
  | number (written : String)
  | text (s : String)
  | list (items : List Value)
  | object (members : List (String × Value))
  deriving Repr, Inhabited

/-- Where line breaks and blanks stand. -/
inductive Layout where
  | compact
  | indented (depth : Nat)
  deriving Repr, DecidableEq

namespace Layout

/-- One level further in. -/
def deeper : Layout → Layout
  | .compact => .compact
  | .indented depth => .indented (depth + 1)

/-- The way to the next line. -/
def lineBreak : Layout → String
  | .compact => ""
  | .indented depth => String.ofList ('\n' :: List.replicate (2 * depth) ' ')

/-- What stands between a name and its value. -/
def colon : Layout → String
  | .compact => ":"
  | .indented _ => ": "

end Layout

/-! ## Texts -/

/-- A character inside a written text. -/
def escapeChar (c : Char) : String :=
  match c with
  | '"' => "\\\""
  | '\\' => "\\\\"
  | '\x08' => "\\b"
  | '\x0c' => "\\f"
  | '\n' => "\\n"
  | '\r' => "\\r"
  | '\t' => "\\t"
  | c => if c.toNat < 0x20 then "\\u" ++ Numeral.hexPadded 4 c.toNat else c.toString

/-- A text between its marks. -/
def quoted (s : String) : String :=
  "\"" ++ String.join (s.toList.map escapeChar) ++ "\""

/-! ## Values -/

mutual

/-- A value in a layout. -/
def Value.render (layout : Layout) : Value → String
  | .null => "null"
  | .bool true => "true"
  | .bool false => "false"
  | .number written => written
  | .text s => quoted s
  | .list [] => "[]"
  | .list (item :: items) =>
    "[" ++ layout.deeper.lineBreak ++ item.render layout.deeper
      ++ renderItems layout.deeper items ++ layout.lineBreak ++ "]"
  | .object [] => "\x7b\x7d"
  | .object ((name, value) :: members) =>
    "\x7b" ++ layout.deeper.lineBreak ++ quoted name ++ layout.colon ++ value.render layout.deeper
      ++ renderMembers layout.deeper members ++ layout.lineBreak ++ "\x7d"

/-- The items of a list behind the first. -/
def renderItems (layout : Layout) : List Value → String
  | [] => ""
  | item :: items =>
    "," ++ layout.lineBreak ++ item.render layout ++ renderItems layout items

/-- The members of an object behind the first. -/
def renderMembers (layout : Layout) : List (String × Value) → String
  | [] => ""
  | (name, value) :: members =>
    "," ++ layout.lineBreak ++ quoted name ++ layout.colon ++ value.render layout
      ++ renderMembers layout members

end

/-- A whole number. -/
def Value.ofNat (n : Nat) : Value :=
  .number (toString n)

/-- A text that may be missing. -/
def Value.ofText? : Option String → Value
  | none => .null
  | some s => .text s

/-- A value without blanks. -/
def Value.compact (value : Value) : String :=
  value.render .compact

/-- A value with its items and members on lines of their own. -/
def Value.pretty (value : Value) : String :=
  value.render (.indented 0)

end Linguist.Json
