import Linguist.Text.Blank

/-!
# Linguist — messages

A message is one text of a program's user interface: the source text as the
program holds it, and the target text a user of another language reads. Where
the text depends on a number, the target is a list of plural forms. The status
tells how far the work on a message has come; a key addresses it.

* `Status.ofText?` reads the word of a status, `Status.attribute?` writes it.
* `Message.key` reads a missing comment as an empty one.
-/

namespace Linguist

/-! ## Status -/

/-- How far the work on a message has come. -/
inductive Status where
  | finished
  | unfinished
  /-- the program no longer holds the source text -/
  | obsolete
  /-- the same, in newer files -/
  | vanished
  deriving Repr, DecidableEq, Inhabited

namespace Status

/-- The word for a status. -/
def name : Status → String
  | .finished => "finished"
  | .unfinished => "unfinished"
  | .obsolete => "obsolete"
  | .vanished => "vanished"

/-- Every status. -/
def all : List Status :=
  [.finished, .unfinished, .obsolete, .vanished]

/-- The attribute that marks a message; finished ones are not marked. -/
def attribute? : Status → Option String
  | .finished => none
  | status => some status.name

/-- The status a word means. Blanks around it and capitals do not matter, and no word means
finished. Capitals of ASCII are enough: no other character becomes a letter of these words. -/
def ofText? (s : String) : Option Status :=
  match lowerAscii (trimmed s) with
  | "" | "finished" => some .finished
  | "unfinished" => some .unfinished
  | "obsolete" => some .obsolete
  | "vanished" => some .vanished
  | _ => none

/-- What is said about a word that means no status. -/
def unknown (s : String) : String :=
  "Unknown translation type: " ++ s

end Status

/-! ## Target texts -/

/-- What stands for the source text in the other language. -/
inductive Target where
  | singular (text : String)
  /-- the forms in the order in which the plural rule of the language numbers them -/
  | plural (forms : List String)
  deriving Repr, DecidableEq

instance : Inhabited Target := ⟨.singular ""⟩

namespace Target

/-- The texts of a target in order. -/
def texts : Target → List String
  | .singular text => [text]
  | .plural forms => forms

/-- Whether a target holds no text at all. -/
def isEmpty (target : Target) : Bool :=
  target.texts.all (·.isEmpty)

/-- How many forms a target has. -/
def formCount (target : Target) : Nat :=
  target.texts.length

/-- A target without any text, for a message that depends on a number or does not. -/
def blank (numerus : Bool) : Target :=
  if numerus then .plural [] else .singular ""

/-- A target on one line. -/
def summary : Target → String
  | .singular text => text
  | .plural forms => "[" ++ String.intercalate " | " forms ++ "]"

end Target

/-! ## Messages -/

/-- A place in the program's source; the line is kept as it is written. -/
structure Location where
  filename : Option String := none
  line : Option String := none
  deriving Repr, DecidableEq, Inhabited

/-- Whether the line counts from the place before. -/
def Location.isRelative (location : Location) : Bool :=
  match location.line with
  | none => false
  | some line =>
    match line.toList with
    | '+' :: _ | '-' :: _ => true
    | _ => false

/-- What addresses a message; messages without a comment have the empty one. -/
structure Key where
  context : String
  source : String
  comment : String
  deriving Repr, DecidableEq, Hashable, Inhabited

/-- A key as it is shown. -/
def Key.text (key : Key) : String :=
  let named := key.context ++ "::\"" ++ key.source ++ "\""
  if key.comment.isEmpty then named else named ++ " (" ++ key.comment ++ ")"

/-- One message. -/
structure Message where
  id : Option String := none
  source : String
  /-- tells messages with the same source text apart -/
  comment : Option String := none
  target : Target
  status : Status
  /-- whether the text depends on a number -/
  numerus : Bool := false
  locations : List Location := []
  oldSource : Option String := none
  oldComment : Option String := none
  /-- the developer's remark -/
  extraComment : Option String := none
  /-- the translator's remark -/
  translatorComment : Option String := none
  deriving Repr, DecidableEq, Inhabited

namespace Message

/-- A finished message with one text. -/
def ofTexts (source text : String) : Message where
  source
  target := .singular text
  status := .finished

/-- A message nobody has worked on. -/
def pending (source : String) : Message where
  source
  target := .singular ""
  status := .unfinished

/-- A finished message whose text depends on a number. -/
def ofForms (source : String) (forms : List String) : Message where
  source
  target := .plural forms
  status := .finished
  numerus := true

/-- The comment, the empty one if there is none. -/
def commentText (message : Message) : String :=
  message.comment.getD ""

/-- The key of a message in a context. -/
def key (context : String) (message : Message) : Key :=
  ⟨context, message.source, message.commentText⟩

/-- Whether the target holds any text. -/
def isTranslated (message : Message) : Bool :=
  !message.target.isEmpty

/-- Whether a program would be shipped with this message. -/
def isActive (message : Message) : Bool :=
  match message.status with
  | .finished | .unfinished => true
  | .obsolete | .vanished => false

/-- Whether a message has this source text and comment; a missing comment is the empty one. -/
def answers (source : String) (comment : Option String) (message : Message) : Bool :=
  message.source == source && message.commentText == comment.getD ""

/-- A message on one line. -/
def summary (message : Message) : String :=
  "Message \x7b source: " ++ message.source ++ ", translation: " ++ message.target.summary
    ++ ", status: " ++ message.status.name ++ " \x7d"

end Message

end Linguist
