import Linguist.Catalog.Basic
import Linguist.Text.Numeral
import Linguist.Xml.Node

/-!
# Linguist — writing a `.ts` document

A catalogue becomes a tree of elements in the layout Linguist uses: one element
a line, indented by four blanks a level, contexts at the margin. The line breaks
and blanks between elements are nodes of the tree like the texts themselves, in
front of each element and of each end tag, so no two texts are neighbours.

Characters that XML forbids in text are written as `byte` elements. What stands
between them is taken from the text in slices, which are told by numbers of bytes.

* `Catalog.node` is the tree, `write` the document.
* `cuts` are the slices and the forbidden characters of a text in a row.
* `textNodes` writes them as nodes.
-/

namespace Linguist.Ts

open Linguist.Xml

/-! ## Texts -/

/-- Characters that cannot stand in text: controls other than tab, line feed and carriage
return, and the two noncharacters at the end of the basic plane. -/
def isForbidden (c : Char) : Bool :=
  let n := c.toNat
  (n < 0x20 && c != '\t' && c != '\n' && c != '\r') || n == 0xFFFE || n == 0xFFFF

/-- A part of a text. -/
inductive Piece where
  /-- characters that can stand in text; never empty in a cut text -/
  | run (characters : List Char)
  | forbidden (c : Char)
  deriving Repr, DecidableEq

/-- A slice from one number of bytes to another, or a character of its own. -/
inductive Cut where
  | slice (start stop : Nat)
  | forbidden (c : Char)
  deriving Repr, DecidableEq

/-- A slice, unless there is nothing in it. -/
def Cut.between (start stop : Nat) : List Cut :=
  if start < stop then [.slice start stop] else []

/-- Cuts what follows the first `here` bytes of a text; the bytes from `start` on are not yet in a
slice. -/
def cutsFrom (start here : Nat) : List Char → List Cut
  | [] => Cut.between start here
  | c :: rest =>
    let next := here + c.utf8Size
    if isForbidden c then Cut.between start here ++ .forbidden c :: cutsFrom next next rest
    else cutsFrom start next rest

/-- Cuts a text at its forbidden characters. -/
def cuts (s : String) : List Cut :=
  cutsFrom 0 0 s.toList

/-- What stands in a text from one number of bytes to another; both must fall between
characters. -/
def slice? (s : String) (start stop : Nat) : Option String :=
  if h : String.Pos.Raw.IsValid s ⟨start⟩ ∧ String.Pos.Raw.IsValid s ⟨stop⟩ ∧ start ≤ stop then
    some (s.extract ⟨⟨start⟩, h.1⟩ ⟨⟨stop⟩, h.2.1⟩)
  else none

/-- The part of a text that a cut takes. -/
def Cut.piece? (s : String) : Cut → Option Piece
  | .slice start stop => (slice? s start stop).map fun inside => .run inside.toList
  | .forbidden c => some (.forbidden c)

/-- The value of the `byte` element of a character. -/
def byteValue (c : Char) : String :=
  "x" ++ Numeral.hex c.toNat

/-- A part of a text as a node. -/
def Piece.node : Piece → Node
  | .run characters => .text (String.ofList characters)
  | .forbidden c => .empty "byte" [("value", byteValue c)]

/-- A text as nodes. -/
def textNodes (s : String) : List Node :=
  ((cuts s).filterMap (Cut.piece? s)).map Piece.node

/-! ## Layout -/

/-- A line break and the blanks in front of what stands at a level. -/
def lineBreak (level : Nat) : Node :=
  .text (String.ofList ('\n' :: List.replicate (4 * level) ' '))

/-- Nodes on lines of their own. -/
def onLines (level : Nat) (nodes : List Node) : List Node :=
  nodes.flatMap fun node => [lineBreak level, node]

/-- An element that carries a text. -/
def textElement (name text : String) : Node :=
  .element name [] (textNodes text)

/-- An element that carries a text, if there is one. -/
def optionalElement (name : String) (text : Option String) : List Node :=
  (text.map (textElement name)).toList

end Linguist.Ts

namespace Linguist

open Xml Ts

/-! ## The tree of a catalogue -/

/-- The element of a location. -/
def Location.node (location : Location) : Node :=
  .empty "location"
    (optionalAttribute "filename" location.filename ++ optionalAttribute "line" location.line)

/-- The content of a target. -/
def Target.nodes : Target → List Node
  | .singular text => textNodes text
  | .plural [] => []
  | .plural forms => onLines 3 (forms.map (textElement "numerusform")) ++ [lineBreak 2]

/-- The elements of a message in the order of the file. -/
def Message.nodes (message : Message) : List Node :=
  message.locations.map Location.node
    ++ [textElement "source" message.source]
    ++ optionalElement "oldsource" message.oldSource
    ++ optionalElement "comment" message.comment
    ++ optionalElement "oldcomment" message.oldComment
    ++ optionalElement "extracomment" message.extraComment
    ++ optionalElement "translatorcomment" message.translatorComment
    ++ [.element "translation" (optionalAttribute "type" message.status.attribute?)
          message.target.nodes]

/-- The element of a message. -/
def Message.node (message : Message) : Node :=
  .element "message"
    (optionalAttribute "id" message.id ++ (if message.numerus then [("numerus", "yes")] else []))
    (onLines 2 message.nodes ++ [lineBreak 1])

/-- The element of a context. -/
def Context.node (context : Context) : Node :=
  .element "context" (optionalAttribute "encoding" context.encoding)
    (onLines 1 (textElement "name" context.name :: optionalElement "comment" context.comment
        ++ context.messages.map Message.node)
      ++ [lineBreak 0])

/-- The root element of a catalogue. -/
def Catalog.node (catalog : Catalog) : Node :=
  .element "TS"
    (optionalAttribute "version" catalog.version
      ++ (if catalog.language.isEmpty then [] else [("language", catalog.language)])
      ++ optionalAttribute "sourcelanguage" catalog.sourceLanguage)
    (onLines 0 (catalog.contexts.map Context.node) ++ [lineBreak 0])

namespace Ts

/-- What stands in front of the root element. -/
def prolog : String :=
  "<?xml version=\"1.0\" encoding=\"utf-8\"?>\n<!DOCTYPE TS>\n"

/-- The document of a catalogue. -/
def write (catalog : Catalog) : String :=
  prolog ++ catalog.node.render ++ "\n"

end Ts

end Linguist
