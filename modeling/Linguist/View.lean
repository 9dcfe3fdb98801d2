import Linguist.Catalog.Basic
import Linguist.Text.Width

/-!
# Linguist — showing a catalogue

A catalogue is shown message by message under the names of its contexts. A text
takes one line of limited width: line feeds are written as escapes, and what
does not fit is left out behind three dots. In full length texts stand as they
are and the locations are shown too.

* `shortened` is a text on one line, whatever the width of its characters.
* `Catalog.view` shows the messages of a selection.
-/

namespace Linguist

/-! ## Short texts -/

/-- Characters with line feeds written as escapes. -/
def flattened (cs : List Char) : List Char :=
  cs.flatMap fun c => if c = '\n' then ['\\', 'n'] else [c]

/-- Characters up to a width, `used` of which is taken; dots stand for the others. -/
def cutAt (width : Char → Nat) (limit used : Nat) : List Char → List Char
  | [] => []
  | c :: cs =>
    if limit < used + width c then ['.', '.', '.']
    else c :: cutAt width limit (used + width c) cs

/-- A text on one line of limited width. -/
def shortened (width : Char → Nat) (limit : Nat) (cs : List Char) : List Char :=
  cutAt width limit 0 (flattened cs)

/-- The width of a shown text, in columns. -/
def shownColumns : Nat :=
  50

/-- A text as it is shown. -/
def shown (full : Bool) (s : String) : String :=
  if full then s else String.ofList (shortened columns shownColumns s.toList)

/-! ## Catalogues -/

/-- Which messages are shown. -/
structure Selection where
  context : Option String := none
  status : Option Status := none
  deriving Repr, DecidableEq

/-- Whether a message is shown. -/
def Selection.accepts (selection : Selection) (context : String) (message : Message) : Bool :=
  selection.context.all (· == context) && selection.status.all (· == message.status)

/-- A line for what may be missing. -/
def optionalLine (label : String) (text : Option String) : List String :=
  text.toList.map (label ++ ·)

/-- A target in lines. -/
def Target.view (full : Bool) : Target → List String
  | .singular text => ["    Translation: " ++ shown full text]
  | .plural forms =>
    ("    Plural forms: " ++ toString forms.length)
      :: forms.zipIdx.map fun (form, index) => s!"      [{index}]: " ++ shown full form

/-- A location in a line. -/
def Location.view (location : Location) : String :=
  "    Location: " ++ location.filename.getD "-" ++ ":" ++ location.line.getD "-"

/-- A message in lines. -/
def Message.view (full : Bool) (message : Message) : List String :=
  ["", "  Source: " ++ shown full message.source, "    Status: " ++ message.status.name]
    ++ optionalLine "    Comment: " (message.comment.map (shown full))
    ++ optionalLine "    Developer comment: " (message.extraComment.map (shown full))
    ++ message.target.view full
    ++ (if full then message.locations.map Location.view else [])

/-- The messages of a context that are shown, in lines. -/
def Context.view (selection : Selection) (full : Bool) (context : Context) : List String :=
  match context.messages.filter (selection.accepts context.name) with
  | [] => []
  | messages =>
    ["", "=== Context: " ++ context.name ++ " ==="] ++ messages.flatMap (Message.view full)

namespace Catalog

/-- What is shown about a catalogue as a whole. -/
def viewHeader (catalog : Catalog) : List String :=
  ["=== Catalog ===", "Language: " ++ catalog.language]
    ++ optionalLine "Version: " catalog.version
    ++ optionalLine "Source language: " catalog.sourceLanguage
    ++ ["Contexts: " ++ toString catalog.contexts.length,
      "Messages: " ++ toString catalog.messageCount]

/-- A catalogue in lines. -/
def view (selection : Selection) (full : Bool) (catalog : Catalog) : List String :=
  let body := catalog.contexts.flatMap (Context.view selection full)
  catalog.viewHeader ++ (if body.isEmpty then ["", "No messages match the filter."] else body)

end Catalog

end Linguist
