import Linguist.Json.Number
import Linguist.Json.Value
import Linguist.Plural.Report

/-!
# Linguist — counting messages

How many messages a catalogue has of each status, how many depend on a number
and how many were left empty on purpose, counted in one walk over the catalogue.
The completion is the finished share of the messages a program would be shipped
with; a catalogue without any is complete.

* `Catalog.stats` counts the messages.
* `Catalog.statsLines` and `Catalog.statsJson` show the counts.
-/

namespace Linguist

open Json (Value)

/-- Numbers of messages. -/
structure Stats where
  total : Nat := 0
  finished : Nat := 0
  unfinished : Nat := 0
  obsolete : Nat := 0
  vanished : Nat := 0
  numerus : Nat := 0
  /-- finished messages without any text -/
  emptyFinished : Nat := 0
  deriving Repr, DecidableEq

namespace Stats

/-- One message of a status. -/
def addStatus (stats : Stats) (status : Status) (isEmpty : Bool) : Stats :=
  match status with
  | .finished =>
    { stats with
      finished := stats.finished + 1
      emptyFinished := stats.emptyFinished + (if isEmpty then 1 else 0) }
  | .unfinished => { stats with unfinished := stats.unfinished + 1 }
  | .obsolete => { stats with obsolete := stats.obsolete + 1 }
  | .vanished => { stats with vanished := stats.vanished + 1 }

/-- One message more. -/
def add (stats : Stats) (message : Message) : Stats :=
  let stats := stats.addStatus message.status message.target.isEmpty
  { stats with
    total := stats.total + 1
    numerus := stats.numerus + (if message.numerus then 1 else 0) }

/-- How many messages a program would be shipped with. -/
def active (stats : Stats) : Nat :=
  stats.finished + stats.unfinished

/-- The finished share in percent. -/
def completion (stats : Stats) : Binary64 :=
  let share := if stats.active = 0 then Binary64.ofRatio? 100 1
    else Binary64.ofRatio? (stats.finished * 100) stats.active
  share.getD .zero

/-- The finished share in percent, rounded to hundredths and written as short as it can be. -/
def completionNumber (stats : Stats) : String :=
  let scaled := (stats.completion.mul? ⟨100, 0⟩).getD .zero
  let hundredths := roundAway scaled.ratio.1 scaled.ratio.2
  Decimal.textOf Json.numberLayout false ((Binary64.ofRatio? hundredths 100).getD .zero)

/-- The numbers by status with the words for them. -/
def byStatus (stats : Stats) : List (String × Nat) :=
  [(Status.finished.name, stats.finished), (Status.unfinished.name, stats.unfinished),
    (Status.obsolete.name, stats.obsolete), (Status.vanished.name, stats.vanished)]

end Stats

/-- How many messages of a context are unfinished. -/
def Context.unfinishedCount (context : Context) : Nat :=
  context.messages.countP fun message => message.status == .unfinished

/-- A context with its numbers. -/
def Context.statsJson (context : Context) : Value :=
  .object [("messages", .ofNat context.messages.length), ("name", .text context.name),
    ("unfinished", .ofNat context.unfinishedCount)]

namespace Catalog

/-- The numbers of a catalogue. -/
def stats (catalog : Catalog) : Stats :=
  catalog.messages.foldl (fun stats (_, message) => stats.add message) {}

/-- The numbers of a catalogue in lines. -/
def statsLines (catalog : Catalog) : List String :=
  let stats := catalog.stats
  ["=== Stats ===",
    "Language: " ++ catalog.language,
    "Contexts: " ++ toString catalog.contexts.length,
    "Messages: " ++ toString stats.total,
    "  By status:"]
  ++ stats.byStatus.map (fun (name, count) => "    " ++ name ++ ": " ++ toString count)
  ++ ["  Numerus messages: " ++ toString stats.numerus,
    "  Intentionally empty: " ++ toString stats.emptyFinished,
    "  Completion: " ++ stats.completion.hundredths ++ "%",
    "  Plural form issues: " ++ toString catalog.pluralReports.length]

/-- The numbers of a catalogue as a value with its members in the order of their names. -/
def statsJson (catalog : Catalog) : Value :=
  let stats := catalog.stats
  .object [
    ("by_status", .object [
      (Status.finished.name, .ofNat stats.finished),
      (Status.obsolete.name, .ofNat stats.obsolete),
      (Status.unfinished.name, .ofNat stats.unfinished),
      (Status.vanished.name, .ofNat stats.vanished)]),
    ("completion_percent", .number stats.completionNumber),
    ("contexts", .ofNat catalog.contexts.length),
    ("empty_finished", .ofNat stats.emptyFinished),
    ("language", .text catalog.language),
    ("messages", .ofNat stats.total),
    ("numerus", .ofNat stats.numerus),
    ("per_context", .list (catalog.contexts.map Context.statsJson)),
    ("plural_issues", .ofNat catalog.pluralReports.length),
    ("version", .ofText? catalog.version)]

end Catalog

end Linguist
