import Linguist.Catalog.Basic
import Linguist.Notice
import Linguist.Text.Numeral
import Linguist.Ts.Fault

/-!
# Linguist — what the parts of a `.ts` document say

The root `TS` holds contexts, a context holds its name and messages, a message
its texts. Tags say the rest with their attributes. What is known of an element
while it is read is kept in a draft; where an element may stand once, the last one
counts, and at the end tag it turns out whether something is missing.

* `statusOf`, `locationOf`, `numerusOf`, `byteChar` — parts of tags.
* `Filling` is the content of a target: forms if there are any, else text.
* `Draft` and `ContextDraft` are messages and contexts whose end tags are to come.
-/

namespace Linguist.Ts

open Linguist.Xml

/-- A reading: a value or the reason why there is none, with notices. -/
abbrev Reading (α : Type) := Logged Fault α

/-! ## Parts of a tag -/

/-- The value of an attribute as text. -/
def textAttribute (tag : Tag) (name : String) : Except Fault (Option String) :=
  match tag.attributes.find (Utf8.encode name) with
  | .error fault => .error (.tagAttribute fault)
  | .ok none => .ok none
  | .ok (some raw) => (some <$> characters raw).mapError .xml

/-- The status of a target, from the attributes of its tag. -/
def statusOf (tag : Tag) (position : Nat) : Except Fault Status :=
  match textAttribute tag "type" with
  | .error fault => .error fault
  | .ok none => .ok .finished
  | .ok (some word) =>
    match Status.ofText? word with
    | some status => .ok status
    | none => .error (.malformed (.unknownStatus word) position)

/-- The place a location names. -/
def locationOf (tag : Tag) : Except Fault Location := do
  let filename ← textAttribute tag "filename"
  let line ← textAttribute tag "line"
  return { filename, line }

/-- Whether a message depends on a number, from the attributes of its tag. -/
def numerusOf (tag : Tag) : Except Fault Bool :=
  match textAttribute tag "numerus" with
  | .error fault => .error fault
  | .ok value => .ok (value == some "yes" || value == some "true")

/-- The character a number written in a `byte` element names. -/
def byteValue? (value : String) : Option Char :=
  let number := match value.toList with
    | '0' :: 'x' :: rest => Numeral.signedPlus 16 Numeral.limit32 rest
    | 'x' :: rest => Numeral.signedPlus 16 Numeral.limit32 rest
    | cs => Numeral.signedPlus 10 Numeral.limit32 cs
  match number with
  | .ok n => if isScalar n then some (Char.ofNat n) else none
  | .error _ => none

/-- The character of a `byte` element. -/
def byteChar (tag : Tag) (position : Nat) : Except Fault Char :=
  match textAttribute tag "value" with
  | .error fault => .error fault
  | .ok none => .error (.malformed .valuelessByte position)
  | .ok (some value) =>
    match byteValue? value with
    | some c => .ok c
    | none => .error (.malformed (.invalidByte value) position)

/-- Character data as text. -/
def textOf (raw : Bytes) : Except Fault String :=
  (characters raw).mapError .xml

/-! ## Notices and faults -/

/-- The fault of a level that is cut off inside an element. -/
def cutOff (element : String) : Ending → Fault
  | .eof position => .malformed (.unexpectedEnd element) position
  | .fault fault => .xml fault

/-- The notice of an element that is not known. -/
def skipNotice (tag : Tag) : Notice where
  level := .warn
  message := "skipping unsupported element"
  fields := [("element", tag.label)]

/-- The notice of a root element that was read to its end. -/
def readNotice (catalog : Catalog) : Notice where
  level := .debug
  message := "parsed TS catalog"
  fields := [
    ("language", catalog.language),
    ("contexts", toString catalog.contexts.length),
    ("messages", toString catalog.messageCount)]

/-! ## Drafts -/

/-- What the content of a target holds. -/
structure Filling where
  text : String := ""
  forms : List String := []
  deriving Repr, DecidableEq

/-- The target that a filling means: forms if there are any; for a message that depends on a
number, text that is not blank is its only form. -/
def Filling.target (numerus : Bool) (filling : Filling) : Target :=
  if !filling.forms.isEmpty then .plural filling.forms
  else if numerus then
    if isBlankText filling.text then .plural [] else .plural [filling.text]
  else .singular filling.text

/-- What is known of a message so far. -/
structure Draft where
  source : Option String := none
  comment : Option String := none
  target : Option (Target × Status) := none
  /-- last one first -/
  locations : List Location := []
  oldSource : Option String := none
  oldComment : Option String := none
  extraComment : Option String := none
  translatorComment : Option String := none

/-- A draft with the text of one of its elements; `none` if the element carries no text. -/
def Draft.setText? (label text : String) (draft : Draft) : Option Draft :=
  match label with
  | "source" => some { draft with source := text }
  | "oldsource" => some { draft with oldSource := text }
  | "comment" => some { draft with comment := text }
  | "oldcomment" => some { draft with oldComment := text }
  | "extracomment" => some { draft with extraComment := text }
  | "translatorcomment" => some { draft with translatorComment := text }
  | _ => none

/-- Whether an element of a message carries text. -/
def isTextElement (label : String) : Bool :=
  (({} : Draft).setText? label "").isSome

/-- The message of a finished draft, which must have a source text. -/
def Draft.message (id : Option String) (numerus : Bool) (draft : Draft) (position : Nat) :
    Except Fault Message :=
  match draft.source with
  | none => .error (.malformed .sourcelessMessage position)
  | some source =>
    let (target, status) := draft.target.getD (Target.blank numerus, .unfinished)
    .ok {
      id, source, target, status, numerus
      comment := draft.comment
      locations := draft.locations.reverse
      oldSource := draft.oldSource
      oldComment := draft.oldComment
      extraComment := draft.extraComment
      translatorComment := draft.translatorComment }

/-- What is known of a context so far. -/
structure ContextDraft where
  name : Option String := none
  comment : Option String := none
  /-- last one first -/
  messages : List Message := []

/-- The context of a finished draft, which must have a name. -/
def ContextDraft.context (encoding : Option String) (draft : ContextDraft) (position : Nat) :
    Except Fault Context :=
  match draft.name with
  | none => .error (.malformed .namelessContext position)
  | some name =>
    .ok { name, encoding, comment := draft.comment, messages := draft.messages.reverse }

/-- A catalogue without contexts, from the attributes of the root. -/
def readHeader (tag : Tag) : Except Fault Catalog := do
  let language ← textAttribute tag "language"
  let sourceLanguage ← textAttribute tag "sourcelanguage"
  let version ← textAttribute tag "version"
  return { language := language.getD "", sourceLanguage, version }

end Linguist.Ts
