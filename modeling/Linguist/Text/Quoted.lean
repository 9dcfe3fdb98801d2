import Linguist.Text.Numeral
import Linguist.Text.Unprintable

/-!
# Linguist — quoted texts

Error texts and log lines show a text between double quotes so that every
character can be told: the usual backslash escapes, and `\\u` with the code
point for what has no visible form.
-/

namespace Linguist.Quoted

/-- The escape of a character that has none of its own. -/
def codePoint (c : Char) : String :=
  "\\u\x7b" ++ Numeral.hex c.toNat ++ "\x7d"

/-- One character between quotes; `single` tells whether an apostrophe is escaped too. -/
def escapeChar (single : Bool) (c : Char) : String :=
  match c with
  | '\x00' => "\\0"
  | '\t' => "\\t"
  | '\r' => "\\r"
  | '\n' => "\\n"
  | '\\' => "\\\\"
  | '"' => "\\\""
  | c =>
    if single && c == '\'' then "\\'"
    else if isUnprintable c then codePoint c
    else c.toString

/-- A text between double quotes. -/
def text (s : String) : String :=
  "\"" ++ String.join (s.toList.map (escapeChar false)) ++ "\""

/-- A file name's part between double quotes: apostrophes are escaped as well. -/
def pathPart (s : String) : String :=
  "\"" ++ String.join (s.toList.map (escapeChar true)) ++ "\""

/-- An optional text, with the name of its case. -/
def optional (quote : String → String) : Option String → String
  | none => "None"
  | some s => "Some(" ++ quote s ++ ")"

end Linguist.Quoted
