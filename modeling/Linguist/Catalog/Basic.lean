import Linguist.Catalog.Message

/-!
# Linguist — catalogues

A catalogue is what one file holds: the target language and the contexts in the
order of the file. A context groups the messages of one part of the program;
contexts of the same name count as one wherever messages are addressed by key.

* `Catalog.messages` lists every message with the name of its context.
* `Catalog.findMessage?` is the plain scan for a key.
* `Catalog.duplicateKeys` lists the keys that occur again, in the order of the file.
-/

namespace Linguist

/-- A named group of messages. -/
structure Context where
  name : String
  comment : Option String := none
  encoding : Option String := none
  messages : List Message := []
  deriving Repr, DecidableEq, Inhabited

/-- The first message of a context with this source text and comment. -/
def Context.findMessage? (context : Context) (source : String) (comment : Option String) :
    Option Message :=
  context.messages.find? (Message.answers source comment)

/-- What one file holds. -/
structure Catalog where
  /-- the target language as written, empty if the file names none -/
  language : String := ""
  sourceLanguage : Option String := none
  version : Option String := none
  contexts : List Context := []
  deriving Repr, DecidableEq, Inhabited

/-- The members of a list that occur in it before, or in `seen`. -/
def repeats {α : Type} [DecidableEq α] (seen : List α) : List α → List α
  | [] => []
  | a :: rest => if a ∈ seen then a :: repeats seen rest else repeats (a :: seen) rest

/-- A table with one more of something, which is entered if it was not there. -/
def countIn {α : Type} [DecidableEq α] (a : α) : List (α × Nat) → List (α × Nat)
  | [] => [(a, 1)]
  | (b, n) :: rest => if a = b then (b, n + 1) :: rest else (b, n) :: countIn a rest

namespace Catalog

/-- An empty catalogue of the current file version. -/
def new (language : String) : Catalog where
  language
  version := some "2.1"

/-- A catalogue with one more context behind the others. -/
def addContext (catalog : Catalog) (context : Context) : Catalog :=
  { catalog with contexts := catalog.contexts ++ [context] }

/-- A catalogue with one more message in its last context. -/
def addMessage (catalog : Catalog) (message : Message) : Catalog :=
  match catalog.contexts.reverse with
  | [] => catalog
  | last :: before =>
    let last := { last with messages := last.messages ++ [message] }
    { catalog with contexts := (last :: before).reverse }

/-- Every message with the name of its context. -/
def messages (catalog : Catalog) : List (String × Message) :=
  catalog.contexts.flatMap fun context => context.messages.map fun message =>
    (context.name, message)

/-- How many messages a catalogue holds, context by context. -/
def messageCount (catalog : Catalog) : Nat :=
  catalog.contexts.foldl (fun count context => count + context.messages.length) 0

/-- The first context of a name. -/
def findContext? (catalog : Catalog) (name : String) : Option Context :=
  catalog.contexts.find? (·.name == name)

/-- The first message for a key, over all contexts of the name. -/
def findMessage? (catalog : Catalog) (context source : String) (comment : Option String) :
    Option Message :=
  ((catalog.contexts.filter (·.name == context)).flatMap (·.messages)).find?
    (Message.answers source comment)

/-- The key of every message in the order of the file. -/
def keys (catalog : Catalog) : List Key :=
  catalog.messages.map fun (context, message) => message.key context

/-- The keys that occurred before, in the order of the later occurrences. -/
def duplicateKeys (catalog : Catalog) : List Key :=
  repeats [] catalog.keys

/-- The statuses that occur, with the number of their messages: every message adds one to its
status, which is entered when it is first seen. -/
def statusCounts (catalog : Catalog) : List (Status × Nat) :=
  catalog.messages.foldl (fun counts (_, message) => countIn message.status counts) []

/-- A catalogue on one line. -/
def summary (catalog : Catalog) : String :=
  let contexts := catalog.contexts.length
  let messages := catalog.messageCount
  "Catalog \x7b language: " ++ catalog.language ++ s!", contexts: {contexts}, messages: {messages} \x7d"

end Catalog

end Linguist
