import Linguist.Ts.Draft

/-!
# Linguist — reading a `.ts` document

The events of a document are taken one after the other. Whoever meets the start
tag of an element reads on from there up to the end tag of the element, and hands
back what is left, so that reading goes on behind it in the element around. Nobody
goes back, and nobody knows the events that are still to come.

Elements that are not known are skipped with a notice, whatever they hold;
self-closed ones are passed over. Character data counts inside the elements that
carry text and nowhere else.

* `Left` is what is left of some events.
* `readToEnd` takes the rest of an element, counting the elements of its name inside it.
* `Loop.run` takes the content of an element up to its end tag, one event after the other.
* `textLoop`, `fillingLoop`, `messageLoop`, `contextLoop`, `catalogLoop` — what is done with it.
* `read` reads a document from its bytes; its first element must be the root.
-/

namespace Linguist.Ts

open Linguist.Xml

/-! ## What is left -/

/-- What is left of some events when the first of them were taken. -/
structure Left (items : List Item) where
  rest : List Item
  isSuffix : rest <:+ items

namespace Left

/-- Nothing was taken. -/
def all (items : List Item) : Left items :=
  ⟨items, List.suffix_rfl⟩

/-- One more event was taken before. -/
def behind {items : List Item} (item : Item) (left : Left items) : Left (item :: items) :=
  ⟨left.rest, left.isSuffix.trans (List.suffix_cons item items)⟩

/-- More events were taken from what was left. -/
def andThen {items : List Item} (left : Left items) (last : Left left.rest) : Left items :=
  ⟨last.rest, last.isSuffix.trans left.isSuffix⟩

theorem length_rest_le {items : List Item} (left : Left items) :
    left.rest.length ≤ items.length :=
  left.isSuffix.length_le

end Left

/-! ## Elements passed over -/

/-- Takes the rest of an element, with `depth` elements of its name open inside it. -/
def readToEnd (ending : Ending) (name : Bytes) (depth : Nat) :
    (items : List Item) → Except Fault (Left items)
  | [] =>
    match ending with
    | .eof _ => .error (.xml (.nesting (.missingEnd name)))
    | .fault fault => .error (.xml fault)
  | item :: items =>
    match item.event with
    | .start tag => do
      let inside := if tag.name = name then depth + 1 else depth
      return (← readToEnd ending name inside items).behind item
    | .close other => do
      if other = name then
        match depth with
        | 0 => return (Left.all items).behind item
        | depth + 1 => return (← readToEnd ending name depth items).behind item
      else return (← readToEnd ending name depth items).behind item
    | _ => do
      return (← readToEnd ending name depth items).behind item

/-- Takes the rest of an element that is not known. -/
def skipElement (ending : Ending) (tag : Tag) (items : List Item) : Reading (Left items) := do
  Logged.note (skipNotice tag)
  readToEnd ending tag.name 0 items

/-! ## The content of an element -/

/-- What is done with the content of an element: every event changes the state, and at the end tag
a value comes of it. A start tag is followed by the events of its element, and these are taken. -/
structure Loop (σ τ : Type) where
  element : String
  text : σ → Bytes → Except Fault σ := fun state _ => pure state
  cdata : σ → Bytes → Except Fault σ := fun state _ => pure state
  empty : σ → Tag → Nat → Except Fault σ
  start : σ → Tag → Nat → (items : List Item) → Reading (σ × Left items)
  finish : σ → Nat → Except Fault τ

namespace Loop

variable {σ τ : Type}

/-- One event: a value if it was the end tag, else a state and what is left. -/
def step (loop : Loop σ τ) (state : σ) (item : Item) (items : List Item) :
    Reading (τ ⊕ σ × Left items) := do
  match item.event with
  | .text raw => return .inr (← loop.text state raw, .all items)
  | .cdata raw => return .inr (← loop.cdata state raw, .all items)
  | .empty tag => return .inr (← loop.empty state tag item.position, .all items)
  | .start tag => return .inr (← loop.start state tag item.position items)
  | .close name =>
    if Utf8.decodeLossy name = loop.element then return .inl (← loop.finish state item.position)
    else return .inr (state, .all items)
  | .comment _ | .instruction _ | .doctype _ => return .inr (state, .all items)

/-- Takes the content of an element and its end tag. -/
def run (loop : Loop σ τ) (ending : Ending) (state : σ) :
    (items : List Item) → Reading (τ × Left items)
  | [] => Logged.fail (cutOff loop.element ending)
  | item :: items => do
    match ← loop.step state item items with
    | .inl value => return (value, (Left.all items).behind item)
    | .inr (state, left) =>
      let (value, last) ← loop.run ending state left.rest
      return (value, (left.andThen last).behind item)
termination_by items => items.length
decreasing_by exact Nat.lt_succ_of_le left.length_rest_le

end Loop

/-! ## Texts and targets -/

/-- Character data, CDATA sections and `byte` elements in a row. -/
def textLoop (ending : Ending) (element : String) : Loop String String where
  element
  text s raw := return s ++ (← textOf raw)
  cdata s raw := return s ++ Utf8.decodeLossy raw
  empty s tag position := do
    if tag.label = "byte" then return s.push (← byteChar tag position)
    else return s
  start s tag _ items := return (s, ← skipElement ending tag items)
  finish s _ := return s

/-- Takes the text of an element. -/
def takeText (ending : Ending) (element : String) (items : List Item) :
    Reading (String × Left items) :=
  (textLoop ending element).run ending "" items

/-- The text and the forms of a target. -/
def fillingLoop (ending : Ending) : Loop Filling Filling where
  element := "translation"
  text filling raw := return { filling with text := filling.text ++ (← textOf raw) }
  cdata filling raw := return { filling with text := filling.text ++ Utf8.decodeLossy raw }
  empty filling tag position := do
    match tag.label with
    | "numerusform" => return { filling with forms := filling.forms ++ [""] }
    | "byte" => return { filling with text := filling.text.push (← byteChar tag position) }
    | _ => return filling
  start filling tag _ items := do
    if tag.label = "numerusform" then
      let (form, left) ← takeText ending "numerusform" items
      return ({ filling with forms := filling.forms ++ [form] }, left)
    else return (filling, ← skipElement ending tag items)
  finish filling _ := return filling

/-- Takes a target; its status stands in its tag. -/
def takeTarget (ending : Ending) (numerus : Bool) (tag : Tag) (position : Nat)
    (items : List Item) : Reading ((Target × Status) × Left items) := do
  let status ← statusOf tag position
  let (filling, left) ← (fillingLoop ending).run ending {} items
  return ((filling.target numerus, status), left)

/-! ## Messages -/

/-- The elements of a message. -/
def messageLoop (ending : Ending) (id : Option String) (numerus : Bool) : Loop Draft Message where
  element := "message"
  empty draft tag position := do
    match tag.label with
    | "location" => return { draft with locations := (← locationOf tag) :: draft.locations }
    | "translation" =>
      return { draft with target := (Target.blank numerus, ← statusOf tag position) }
    | label => return (draft.setText? label "").getD draft
  start draft tag position items := do
    match tag.label with
    | "location" =>
      let location ← locationOf tag
      let left ← readToEnd ending tag.name 0 items
      return ({ draft with locations := location :: draft.locations }, left)
    | "translation" =>
      let (target, left) ← takeTarget ending numerus tag position items
      return ({ draft with target := target }, left)
    | label =>
      if isTextElement label then
        let (text, left) ← takeText ending label items
        return ((draft.setText? label text).getD draft, left)
      else return (draft, ← skipElement ending tag items)
  finish draft position := draft.message id numerus position

/-- Takes a message. -/
def takeMessage (ending : Ending) (tag : Tag) (items : List Item) :
    Reading (Message × Left items) := do
  let numerus ← numerusOf tag
  let id ← textAttribute tag "id"
  (messageLoop ending id numerus).run ending {} items

/-! ## Contexts and the catalogue -/

/-- The name, the comment and the messages of a context. -/
def contextLoop (ending : Ending) (encoding : Option String) : Loop ContextDraft Context where
  element := "context"
  empty draft tag position :=
    match tag.label with
    | "name" => return { draft with name := "" }
    | "comment" => return { draft with comment := "" }
    | "message" => .error (.malformed .sourcelessMessage position)
    | _ => return draft
  start draft tag _ items := do
    match tag.label with
    | "name" =>
      let (name, left) ← takeText ending "name" items
      return ({ draft with name := name }, left)
    | "comment" =>
      let (comment, left) ← takeText ending "comment" items
      return ({ draft with comment := comment }, left)
    | "message" =>
      let (message, left) ← takeMessage ending tag items
      return ({ draft with messages := message :: draft.messages }, left)
    | _ => return (draft, ← skipElement ending tag items)
  finish draft position := draft.context encoding position

/-- Takes a context. -/
def takeContext (ending : Ending) (tag : Tag) (items : List Item) :
    Reading (Context × Left items) := do
  let encoding ← textAttribute tag "encoding"
  (contextLoop ending encoding).run ending {} items

/-- The contexts of a catalogue, last one first. -/
def catalogLoop (ending : Ending) : Loop (List Context) (List Context) where
  element := "TS"
  empty contexts tag position :=
    if tag.label = "context" then .error (.malformed .namelessContext position)
    else return contexts
  start contexts tag _ items := do
    if tag.label = "context" then
      let (context, left) ← takeContext ending tag items
      return (context :: contexts, left)
    else return (contexts, ← skipElement ending tag items)
  finish contexts _ := return contexts.reverse

/-- The catalogue of some events; nothing but their first element matters. -/
def readEvents (ending : Ending) : List Item → Reading Catalog
  | [] =>
    match ending with
    | .eof _ => Logged.fail .missingRoot
    | .fault fault => Logged.fail (.xml fault)
  | item :: items => do
    match item.event with
    | .start tag =>
      if tag.label = "TS" then
        let header ← readHeader tag
        let (contexts, _) ← (catalogLoop ending).run ending [] items
        let catalog := { header with contexts }
        Logged.note (readNotice catalog)
        return catalog
      else Logged.fail (.malformed (.unexpectedRoot tag.label) item.position)
    | .empty tag =>
      if tag.label = "TS" then readHeader tag
      else Logged.fail (.malformed (.unexpectedRoot tag.label) item.position)
    | _ => readEvents ending items

/-- The catalogue of a document. -/
def read (bytes : Bytes) : Reading Catalog :=
  let events := Events.ofBytes bytes
  readEvents events.ending events.items

end Linguist.Ts
