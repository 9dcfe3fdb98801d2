import Linguist.Plural.Rule

/-!
# Linguist — form counts

A message that depends on a number needs exactly as many forms as the rule of
its language has. Messages nobody ships, and unfinished ones without any form,
are not asked.
-/

namespace Linguist

/-- A message with too many or too few forms. -/
structure PluralReport where
  language : String
  context : String
  source : String
  comment : Option String
  expected : Nat
  found : Nat
  deriving Repr, DecidableEq

/-- How many forms a message has, if their number has to fit. -/
def Message.countedForms? (message : Message) : Option Nat :=
  match message.target with
  | .singular _ => none
  | .plural forms =>
    if message.numerus && message.isActive && !(forms.isEmpty && message.status == .unfinished) then
      some forms.length
    else none

namespace Catalog

/-- The report on one message. -/
def pluralReport? (catalog : Catalog) (context : String) (message : Message) :
    Option PluralReport :=
  match message.countedForms? with
  | none => none
  | some found =>
    let expected := catalog.pluralRule.formCount
    if found = expected then none
    else some {
      language := catalog.language, context, source := message.source
      comment := message.comment, expected, found }

/-- The reports on all messages in the order of the file. -/
def pluralReports (catalog : Catalog) : List PluralReport :=
  catalog.messages.filterMap fun (context, message) => catalog.pluralReport? context message

end Catalog

namespace PluralReport

/-- A report on one line. -/
def text (report : PluralReport) : String :=
  let expected := report.expected
  let found := report.found
  "lang='" ++ report.language ++ "' context='" ++ report.context ++ "' source='" ++ report.source
    ++ s!"': expected {expected} plural form(s), found {found}"

end PluralReport

end Linguist
