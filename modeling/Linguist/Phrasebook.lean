import Linguist.Notice
import Linguist.Plural.Rule
import Std.Data.HashMap

/-!
# Linguist — looking messages up

A phrasebook answers for one catalogue which text stands for a source text. It
holds the messages a program would be shipped with in a row, and an index that
leads from a context over a source text and a comment to a position in it; two
messages under one key make no phrasebook. A comment that addresses nothing is
given up, so that the message without a comment answers.

* `Entries` is the row with its index; no position leads out of the row.
* `Phrasebook.ofCatalog` collects the messages, `Phrasebook.find?` finds one.
* `Phrasebook.lookup` tells what is known, `Phrasebook.lookupForm` for a number.
* `Phrasebook.textFor` always has a text: the source text where there is no other.
-/

namespace Linguist

/-- The answer to a query. -/
inductive Lookup where
  /-- the only text, which may be empty on purpose -/
  | translated (text : String)
  /-- the forms of a message that depends on a number -/
  | plural (forms : List String)
  /-- there is a message, but it still needs work -/
  | unfinished
  | notFound
  deriving Repr, DecidableEq

namespace Lookup

/-- Whether there is a message. -/
def isFound : Lookup → Bool
  | .notFound => false
  | _ => true

/-- The text, if the answer is one text. -/
def text? : Lookup → Option String
  | .translated text => some text
  | _ => none

end Lookup

/-- What a message answers. -/
def Message.answer (message : Message) : Lookup :=
  match message.status, message.target with
  | .unfinished, _ => .unfinished
  | _, .singular text => .translated text
  | _, .plural [] => .unfinished
  | _, .plural forms => .plural forms

/-! ## Entries -/

/-- Where messages stand: by context, by source text, and then with each comment the position of
its message. -/
abbrev Index :=
  Std.HashMap String (Std.HashMap String (List (String × Nat)))

namespace Index

/-- The comments under a source text with their positions; there may be none. -/
def comments (index : Index) (context source : String) : List (String × Nat) :=
  (index.getD context ∅).getD source []

/-- One more comment with the position of its message. -/
def add (index : Index) (context source comment : String) (position : Nat) : Index :=
  index.insert context <|
    (index.getD context ∅).insert source (index.comments context source ++ [(comment, position)])

theorem comments_empty (context source : String) : (∅ : Index).comments context source = [] := by
  rw [comments, Std.HashMap.getD_empty, Std.HashMap.getD_empty]

theorem comments_add (index : Index) (context source comment context' source' : String)
    (position : Nat) :
    (index.add context source comment position).comments context' source'
      = if context = context' ∧ source = source' then
          index.comments context source ++ [(comment, position)]
        else index.comments context' source' := by
  unfold add comments
  rw [Std.HashMap.getD_insert]
  by_cases hContext : context = context'
  · subst hContext
    rw [if_pos (beq_iff_eq.mpr rfl), Std.HashMap.getD_insert]
    simp only [beq_iff_eq, true_and]
  · rw [if_neg (mt beq_iff_eq.mp hContext), if_neg fun h => hContext h.1]

end Index

/-- Messages in the order in which they were entered, with an index of their positions. -/
structure Entries where
  messages : Array Message
  index : Index
  /-- the index has no positions but those of messages -/
  inBounds : ∀ context source, ∀ entry ∈ index.comments context source, entry.2 < messages.size

namespace Entries

/-- No messages. -/
def empty : Entries where
  messages := #[]
  index := ∅
  inBounds context source entry hEntry := by
    rw [Index.comments_empty] at hEntry
    cases hEntry

/-- The position of the message with a comment. -/
def position? (comments : List (String × Nat)) (wanted : String) : Option Nat :=
  (comments.find? (·.1 == wanted)).map (·.2)

/-- One more message, behind the others. -/
def add (entries : Entries) (entry : String × Message) : Entries where
  messages := entries.messages.push entry.2
  index := entries.index.add entry.1 entry.2.source entry.2.commentText entries.messages.size
  inBounds context source added hAdded := by
    rw [Array.size_push]
    rw [Index.comments_add] at hAdded
    split at hAdded
    · rcases List.mem_append.mp hAdded with hOld | hNew
      · exact Nat.lt_succ_of_lt (entries.inBounds _ _ added hOld)
      · rw [List.mem_singleton.mp hNew]
        exact Nat.lt_succ_self _
    · exact Nat.lt_succ_of_lt (entries.inBounds _ _ added hAdded)

/-- One more message, unless its key is taken. -/
def enter (entries : Entries) (entry : String × Message) : Except Key Entries :=
  let comments := entries.index.comments entry.1 entry.2.source
  if comments.any (·.1 == entry.2.commentText) then .error (entry.2.key entry.1)
  else .ok (entries.add entry)

/-- The message for a source text: the one with the comment, else the one without. -/
def find? (entries : Entries) (context source comment : String) : Option Message := do
  let comments := entries.index.comments context source
  let position ← (position? comments comment).or
    (if comment.isEmpty then none else position? comments "")
  entries.messages[position]?

end Entries

/-- The messages of a catalogue by key. -/
structure Phrasebook where
  language : String
  rule : PluralRule
  entries : Entries

namespace Phrasebook

/-- The phrasebook of a catalogue under a rule, or the first key that occurs again. -/
def withRule (catalog : Catalog) (rule : PluralRule) : Except Key Phrasebook := do
  let active := catalog.messages.filter fun (_, message) => message.isActive
  let entries ← active.foldlM Entries.enter .empty
  return { language := catalog.language, rule, entries }

/-- The phrasebook of a catalogue under the rule of its language. -/
def ofCatalog (catalog : Catalog) : Except Key Phrasebook :=
  withRule catalog catalog.pluralRule

/-- How many messages a phrasebook holds. -/
def size (book : Phrasebook) : Nat :=
  book.entries.messages.size

/-- Whether a phrasebook holds no message. -/
def isEmpty (book : Phrasebook) : Bool :=
  book.size == 0

/-- The message for a source text; a missing comment is the empty one. -/
def find? (book : Phrasebook) (context source : String) (comment : Option String) :
    Option Message :=
  book.entries.find? context source (comment.getD "")

/-- What is known about a source text. -/
def lookup (book : Phrasebook) (context source : String) (comment : Option String) : Lookup :=
  match book.find? context source comment with
  | none => .notFound
  | some message => message.answer

/-- What is known about a source text for a number. -/
def lookupForm (book : Phrasebook) (context source : String) (comment : Option String) (n : Nat) :
    Lookup :=
  match book.lookup context source comment with
  | .plural forms =>
    match book.rule.select forms n with
    | some text => .translated text
    | none => .unfinished
  | answer => answer

/-- The text to show: for a number the form of that number, and the source text if nothing is
known. Without a number, a message that depends on one shows the form of `1`. -/
def textFor (book : Phrasebook) (context source : String) (comment : Option String)
    (n : Option Nat) : String :=
  let answer := match n with
    | some n => book.lookupForm context source comment n
    | none => book.lookup context source comment
  match answer with
  | .translated text => text
  | .plural forms => (book.rule.select forms 1).getD source
  | .unfinished | .notFound => source

/-- The notice of a phrasebook that was built. -/
def builtNotice (book : Phrasebook) : Notice where
  level := .debug
  message := "built translator index"
  fields := [
    ("language", book.language),
    ("messages", toString book.size),
    ("rule", book.rule.label)]

end Phrasebook

end Linguist
