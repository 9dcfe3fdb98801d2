import Linguist.Proofs.Xml.Forest
import Linguist.Ts.Reader

/-!
# Linguist — reading a `.ts` document from its forest

A forest has the content of every element apart from what follows the element, so
that each level can be read by itself, by recursion on it. It says the same as the
reader that takes the events one after the other, and says it level by level.

* `readForest` reads the forest of a document.
* `readText` is the content of an element that carries text.
* `readTarget` is the content of a target: forms if there are any, else text.
-/

namespace Linguist.Ts

open Linguist.Xml

/-! ## Content -/

/-- Passes over the content of an element, which must be complete. -/
def passOver (tag : Tag) (body : Forest) : Except Fault Unit :=
  match body.stopped? with
  | none => .ok ()
  | some (.eof _) => .error (.xml (.nesting (.missingEnd tag.name)))
  | some (.fault fault) => .error (.xml fault)

/-- Passes over an element that is not known. -/
def skip (tag : Tag) (body : Forest) : Reading Unit := do
  Logged.note (skipNotice tag)
  passOver tag body

/-- The text of an element: character data, CDATA sections and `byte` elements in a row. -/
def readText (element : String) : Forest → Reading String
  | .closed _ => pure ""
  | .stop ending => Logged.fail (cutOff element ending)
  | .text raw rest => do
    let s ← textOf raw
    return s ++ (← readText element rest)
  | .cdata raw rest => do
    return Utf8.decodeLossy raw ++ (← readText element rest)
  | .empty tag position rest => do
    if tag.label = "byte" then
      let c ← byteChar tag position
      return c.toString ++ (← readText element rest)
    else readText element rest
  | .element tag _ body rest => do
    skip tag body
    readText element rest

/-- The text and the forms of a target. -/
def readFilling : Forest → Reading Filling
  | .closed _ => pure {}
  | .stop ending => Logged.fail (cutOff "translation" ending)
  | .text raw rest => do
    let s ← textOf raw
    let filling ← readFilling rest
    return { filling with text := s ++ filling.text }
  | .cdata raw rest => do
    let filling ← readFilling rest
    return { filling with text := Utf8.decodeLossy raw ++ filling.text }
  | .empty tag position rest => do
    match tag.label with
    | "numerusform" =>
      let filling ← readFilling rest
      return { filling with forms := "" :: filling.forms }
    | "byte" =>
      let c ← byteChar tag position
      let filling ← readFilling rest
      return { filling with text := c.toString ++ filling.text }
    | _ => readFilling rest
  | .element tag _ body rest => do
    if tag.label = "numerusform" then
      let form ← readText "numerusform" body
      let filling ← readFilling rest
      return { filling with forms := form :: filling.forms }
    else
      skip tag body
      readFilling rest

/-- A target and its status. -/
def readTarget (numerus : Bool) (tag : Tag) (position : Nat) (body : Forest) :
    Reading (Target × Status) := do
  let status ← statusOf tag position
  let filling ← readFilling body
  return (filling.target numerus, status)

/-! ## Messages -/

/-- The content of a message and the position of its end. -/
def readDraft (numerus : Bool) (draft : Draft) : Forest → Reading (Draft × Nat)
  | .closed position => pure (draft, position)
  | .stop ending => Logged.fail (cutOff "message" ending)
  | .text _ rest | .cdata _ rest => readDraft numerus draft rest
  | .empty tag position rest => do
    match tag.label with
    | "location" =>
      let location ← locationOf tag
      readDraft numerus { draft with locations := location :: draft.locations } rest
    | "translation" =>
      let status ← statusOf tag position
      readDraft numerus { draft with target := (Target.blank numerus, status) } rest
    | label => readDraft numerus ((draft.setText? label "").getD draft) rest
  | .element tag position body rest => do
    match tag.label with
    | "location" =>
      let location ← locationOf tag
      passOver tag body
      readDraft numerus { draft with locations := location :: draft.locations } rest
    | "translation" =>
      let target ← readTarget numerus tag position body
      readDraft numerus { draft with target := target } rest
    | label =>
      if isTextElement label then
        let text ← readText label body
        readDraft numerus ((draft.setText? label text).getD draft) rest
      else
        skip tag body
        readDraft numerus draft rest

/-- A message from its element. -/
def readMessage (tag : Tag) (body : Forest) : Reading Message := do
  let numerus ← numerusOf tag
  let id ← textAttribute tag "id"
  let (draft, position) ← readDraft numerus {} body
  draft.message id numerus position

/-! ## Contexts and the catalogue -/

/-- The content of a context and the position of its end. -/
def readContextDraft (draft : ContextDraft) : Forest → Reading (ContextDraft × Nat)
  | .closed position => pure (draft, position)
  | .stop ending => Logged.fail (cutOff "context" ending)
  | .text _ rest | .cdata _ rest => readContextDraft draft rest
  | .empty tag position rest => do
    match tag.label with
    | "name" => readContextDraft { draft with name := "" } rest
    | "comment" => readContextDraft { draft with comment := "" } rest
    | "message" => Logged.fail (.malformed .sourcelessMessage position)
    | _ => readContextDraft draft rest
  | .element tag _ body rest => do
    match tag.label with
    | "name" =>
      let name ← readText "name" body
      readContextDraft { draft with name := name } rest
    | "comment" =>
      let comment ← readText "comment" body
      readContextDraft { draft with comment := comment } rest
    | "message" =>
      let message ← readMessage tag body
      readContextDraft { draft with messages := message :: draft.messages } rest
    | _ =>
      skip tag body
      readContextDraft draft rest

/-- A context from its element. -/
def readContext (tag : Tag) (body : Forest) : Reading Context := do
  let encoding ← textAttribute tag "encoding"
  let (draft, position) ← readContextDraft {} body
  draft.context encoding position

/-- The contexts of a catalogue. -/
def readContexts : Forest → Reading (List Context)
  | .closed _ => pure []
  | .stop ending => Logged.fail (cutOff "TS" ending)
  | .text _ rest | .cdata _ rest => readContexts rest
  | .empty tag position rest =>
    if tag.label = "context" then Logged.fail (.malformed .namelessContext position)
    else readContexts rest
  | .element tag _ body rest => do
    if tag.label = "context" then
      let context ← readContext tag body
      return context :: (← readContexts rest)
    else
      skip tag body
      readContexts rest

/-- The catalogue of a document: its first element must be the root. -/
def readForest : Forest → Reading Catalog
  | .closed _ | .stop (.eof _) => Logged.fail .missingRoot
  | .stop (.fault fault) => Logged.fail (.xml fault)
  | .text _ rest | .cdata _ rest => readForest rest
  | .empty tag position _ =>
    if tag.label = "TS" then readHeader tag
    else Logged.fail (.malformed (.unexpectedRoot tag.label) position)
  | .element tag position body _ => do
    if tag.label = "TS" then
      let header ← readHeader tag
      let contexts ← readContexts body
      let catalog := { header with contexts }
      Logged.note (readNotice catalog)
      return catalog
    else Logged.fail (.malformed (.unexpectedRoot tag.label) position)

end Linguist.Ts
