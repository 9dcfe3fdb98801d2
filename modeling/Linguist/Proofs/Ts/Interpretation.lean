import Linguist.Proofs.Xml.Content
import Linguist.Proofs.Ts.Forest

/-!
# Linguist — what the tree of a document means

The catalogue of a tree, told without reading the tree in any order: an element
means something by its children of certain names. Of children that may stand
once the last one counts, the others must still be readable. Positions, notices
and faults do not occur here; a tree that is no catalogue means nothing.

A self-closed element is an element without content, except that only a
self-closed `byte` element stands for a character.

* `Element.catalog?` — the catalogue of a root element.
* `Element.text?` — the text of an element.
* `Element.target?` — the forms of a target, or else its text.
-/

namespace Linguist.Xml

/-- An element with its content, self-closed or not. -/
@[ext]
structure Element where
  tag : Tag
  content : List Content

/-- The element that a piece of a document is, if it is one. -/
def Content.element? : Content → Option Element
  | .empty tag => some ⟨tag, []⟩
  | .element tag children => some ⟨tag, children⟩
  | _ => none

/-- The elements among content. -/
def elements (content : List Content) : List Element :=
  content.filterMap Content.element?

/-- The elements inside an element, without those inside of them. -/
def Element.children (element : Element) : List Element :=
  elements element.content

/-- The elements of a name among others. -/
def named (label : String) (elements : List Element) : List Element :=
  elements.filter (·.tag.label == label)

end Linguist.Xml

namespace Linguist.Ts

open Xml

/-! ## Texts -/

/-- The value of an attribute, where it and the attributes before it can be read. -/
def attribute? (tag : Tag) (name : String) : Option (Option String) :=
  (textAttribute tag name).toOption

/-- The character of a `byte` element. -/
def byte? (tag : Tag) : Option Char := do
  let some value ← attribute? tag "value" | none
  byteValue? value

/-- The characters a piece of a text stands for. -/
def characters? : Content → Option String
  | .text raw => (characters raw).toOption
  | .cdata raw => some (Utf8.decodeLossy raw)
  | .empty tag => if tag.label = "byte" then (byte? tag).map Char.toString else some ""
  | _ => some ""

/-- The text of content: that of its pieces in a row. -/
def text? (content : List Content) : Option String :=
  (content.mapM characters?).map String.join

/-- The texts of elements of a name, in order. -/
def texts? (label : String) (elements : List Element) : Option (List String) :=
  (named label elements).mapM fun element => text? element.content

/-- The text of the last element of a name, if there is one. All of them must have texts. -/
def lastText? (label : String) (elements : List Element) : Option (Option String) :=
  (texts? label elements).map List.getLast?

/-! ## Messages -/

/-- The status of a target. -/
def status? (tag : Tag) : Option Status := do
  match ← attribute? tag "type" with
  | none => some .finished
  | some word => Status.ofText? word

/-- The target an element means: its forms if there are any, otherwise its text, which is one
form or none if the message depends on a number. -/
def target? (numerus : Bool) (element : Element) : Option Target := do
  let text ← text? element.content
  let forms ← texts? "numerusform" element.children
  if forms ≠ [] then return .plural forms
  else if numerus then return if isBlankText text then .plural [] else .plural [text]
  else return .singular text

/-- The target an element means, with its status. -/
def targetAndStatus? (numerus : Bool) (element : Element) : Option (Target × Status) := do
  let status ← status? element.tag
  let target ← target? numerus element
  return (target, status)

/-- The place an element names. -/
def location? (element : Element) : Option Location := do
  let filename ← attribute? element.tag "filename"
  let line ← attribute? element.tag "line"
  return { filename, line }

/-- Whether a message depends on a number. -/
def numerus? (tag : Tag) : Option Bool := do
  let value ← attribute? tag "numerus"
  return value = some "yes" ∨ value = some "true"

/-- The message of an element. -/
def message? (element : Element) : Option Message := do
  let numerus ← numerus? element.tag
  let id ← attribute? element.tag "id"
  let some source ← lastText? "source" element.children | none
  let oldSource ← lastText? "oldsource" element.children
  let comment ← lastText? "comment" element.children
  let oldComment ← lastText? "oldcomment" element.children
  let extraComment ← lastText? "extracomment" element.children
  let translatorComment ← lastText? "translatorcomment" element.children
  let locations ← (named "location" element.children).mapM location?
  let targets ← (named "translation" element.children).mapM (targetAndStatus? numerus)
  let (target, status) := targets.getLast?.getD (Target.blank numerus, .unfinished)
  return {
    id, source, comment, target, status, numerus, locations
    oldSource, oldComment, extraComment, translatorComment }

/-! ## Contexts and the catalogue -/

/-- The context of an element. -/
def context? (element : Element) : Option Context := do
  let encoding ← attribute? element.tag "encoding"
  let some name ← lastText? "name" element.children | none
  let comment ← lastText? "comment" element.children
  let messages ← (named "message" element.children).mapM message?
  return { name, comment, encoding, messages }

/-- The catalogue of a root element. -/
def catalog? (element : Element) : Option Catalog := do
  let language ← attribute? element.tag "language"
  let sourceLanguage ← attribute? element.tag "sourcelanguage"
  let version ← attribute? element.tag "version"
  let contexts ← (named "context" element.children).mapM context?
  return { language := language.getD "", sourceLanguage, version, contexts }

end Linguist.Ts
