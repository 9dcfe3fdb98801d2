import Linguist.Catalog.Basic
import Linguist.Json.Decoder
import Linguist.Json.Value

/-!
# Linguist — catalogues in JSON

A catalogue is an object with the names of its fields as members. What is
missing or empty is left out, except for what every catalogue, context or
message has. A target names its shape: one text or a list of forms.

* `Catalog.json` is the value of a catalogue.
* `Catalog.ofJson` and `Catalog.listOfJson` read documents.
-/

namespace Linguist

open Json (Value Decoder Record)

/-! ## Writing -/

/-- A member that is left out if there is nothing. -/
def optionalMember (name : String) (s : Option String) : List (String × Value) :=
  match s with
  | none => []
  | some s => [(name, .text s)]

/-- A member that is left out if there are no items. -/
def listMember (name : String) (items : List Value) : List (String × Value) :=
  if items.isEmpty then [] else [(name, .list items)]

/-- The value of a target. -/
def Target.json : Target → Value
  | .singular text => .object [("singular", .text text)]
  | .plural forms => .object [("plural", .list (forms.map .text))]

/-- The value of a location. -/
def Location.json (location : Location) : Value :=
  .object (optionalMember "filename" location.filename ++ optionalMember "line" location.line)

/-- The value of a message. -/
def Message.json (message : Message) : Value :=
  .object (optionalMember "id" message.id
    ++ [("source", .text message.source)]
    ++ optionalMember "comment" message.comment
    ++ [("translation", message.target.json), ("status", .text message.status.name)]
    ++ (if message.numerus then [("numerus", .bool true)] else [])
    ++ listMember "locations" (message.locations.map Location.json)
    ++ optionalMember "old_source" message.oldSource
    ++ optionalMember "old_comment" message.oldComment
    ++ optionalMember "extra_comment" message.extraComment
    ++ optionalMember "translator_comment" message.translatorComment)

/-- The value of a context. -/
def Context.json (context : Context) : Value :=
  .object ([("name", .text context.name)]
    ++ optionalMember "comment" context.comment
    ++ optionalMember "encoding" context.encoding
    ++ listMember "messages" (context.messages.map Message.json))

/-- The value of a catalogue. -/
def Catalog.json (catalog : Catalog) : Value :=
  .object ([("language", .text catalog.language)]
    ++ optionalMember "source_language" catalog.sourceLanguage
    ++ optionalMember "version" catalog.version
    ++ listMember "contexts" (catalog.contexts.map Context.json))

/-! ## Reading -/

/-- A field with a text that may be missing. -/
def optionalField {α : Type} (name : String) (set : α → Option String → α) : Json.Field α where
  name
  read a := return set a (← Decoder.optional Decoder.string)

/-- A field with a list that may be missing. -/
def listField {α β : Type} (name : String) (item : Decoder β) (set : α → List β → α) :
    Json.Field α where
  name
  read a := return set a (← Decoder.list item)

/-- The target a case holds. -/
def Target.decodeCase (name : String) : Decoder Target :=
  if name = "singular" then return .singular (← Decoder.string)
  else return .plural (← Decoder.list Decoder.string)

/-- Reads a target, which is never a bare name. -/
def Target.decode : Decoder Target :=
  Decoder.caseOf ["singular", "plural"] Target.decodeCase fun _ => none

/-- The status of a name. -/
def Status.named? (name : String) : Option Status :=
  Status.all.find? (·.name == name)

/-- Reads a status: its name, or an object with the name and nothing. -/
def Status.decode : Decoder Status :=
  let content (name : String) : Decoder Status := do
    Decoder.null
    return (Status.named? name).getD .finished
  Decoder.caseOf (Status.all.map Status.name) content Status.named?

/-- Locations as records. -/
def Location.record : Record Location where
  name := "Location"
  fields := [
    optionalField "filename" fun location filename => { location with filename },
    optionalField "line" fun location line => { location with line }]
  blank := {}

/-- Messages as records. -/
def Message.record : Record Message where
  name := "Message"
  fields := [
    optionalField "id" fun message id => { message with id },
    { name := "source", required := true
      read := fun message => return { message with source := ← Decoder.string } },
    optionalField "comment" fun message comment => { message with comment },
    { name := "translation", required := true
      read := fun message => return { message with target := ← Target.decode } },
    { name := "status", required := true
      read := fun message => return { message with status := ← Status.decode } },
    { name := "numerus"
      read := fun message => return { message with numerus := ← Decoder.boolean } },
    listField "locations" Location.record.decode fun message locations =>
      { message with locations },
    optionalField "old_source" fun message oldSource => { message with oldSource },
    optionalField "old_comment" fun message oldComment => { message with oldComment },
    optionalField "extra_comment" fun message extraComment => { message with extraComment },
    optionalField "translator_comment" fun message translatorComment =>
      { message with translatorComment }]
  blank := { source := "", target := .singular "", status := .finished }

/-- Contexts as records. -/
def Context.record : Record Context where
  name := "Context"
  fields := [
    { name := "name", required := true
      read := fun context => return { context with name := ← Decoder.string } },
    optionalField "comment" fun context comment => { context with comment },
    optionalField "encoding" fun context encoding => { context with encoding },
    listField "messages" Message.record.decode fun context messages => { context with messages }]
  blank := { name := "" }

/-- Catalogues as records. -/
def Catalog.record : Record Catalog where
  name := "Catalog"
  fields := [
    { name := "language"
      read := fun catalog => return { catalog with language := ← Decoder.string } },
    optionalField "source_language" fun catalog sourceLanguage => { catalog with sourceLanguage },
    optionalField "version" fun catalog version => { catalog with version },
    listField "contexts" Context.record.decode fun catalog contexts => { catalog with contexts }]
  blank := {}

namespace Catalog

/-- The catalogue of a document. -/
def ofJson (document : Bytes) : Except Json.Refusal Catalog :=
  record.decode.run document

/-- The catalogues of a document that lists them. -/
def listOfJson (document : Bytes) : Except Json.Refusal (List Catalog) :=
  (Decoder.list record.decode).run document

/-- A document of one catalogue. -/
def toJson (catalog : Catalog) : String :=
  catalog.json.pretty

/-- A document that lists catalogues. -/
def listToJson (catalogs : List Catalog) : String :=
  (Value.list (catalogs.map Catalog.json)).compact

end Catalog

end Linguist
