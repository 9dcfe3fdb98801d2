import Linguist.Notice
import Linguist.Text.Numeral

/-!
# Linguist — log lines

A notice takes a line: its level, its wording and its values by name. Characters
that could steer a terminal are written as escapes in the wording. Warnings are
always shown, other notices on request.
-/

namespace Linguist

/-- A character of a wording; those that steer a terminal are escaped. -/
def logChar (c : Char) : String :=
  let n := c.toNat
  if n = 0x1B ∨ n = 0x07 ∨ n = 0x08 ∨ n = 0x0C ∨ n = 0x7F then
    "\\x" ++ Numeral.hexPadded 2 n
  else if 0x80 ≤ n ∧ n ≤ 0x9F then "\\u\x7b" ++ Numeral.hex n ++ "\x7d"
  else c.toString

namespace Notice

/-- A notice as a line. -/
def line (notice : Notice) : String :=
  let values := notice.fields.map fun (name, value) => " " ++ name ++ "=" ++ value
  notice.level.name ++ " " ++ String.join (notice.message.toList.map logChar) ++ String.join values

/-- Whether a notice is shown. -/
def isShown (verbose : Bool) (notice : Notice) : Bool :=
  verbose || notice.level == .warn

end Notice

/-- The lines of the notices that are shown. -/
def logLines (verbose : Bool) (notices : List Notice) : List String :=
  (notices.filter (Notice.isShown verbose)).map Notice.line

end Linguist
