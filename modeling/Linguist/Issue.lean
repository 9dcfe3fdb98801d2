import Linguist.Placeholder
import Linguist.Plural.Report

/-!
# Linguist — issues of a catalogue

A catalogue is checked as a whole and every issue is reported: contexts without
a name first, then keys that occur again, then finished messages one by one, and
the numbers of plural forms last, each in the order of the file.

* `Catalog.issues` lists the issues, `Issue.text` puts one in words.
-/

namespace Linguist

/-- What is wrong in a catalogue. -/
inductive Issue where
  | duplicateKey (key : Key)
  /-- a finished target refers to other arguments than its source -/
  | placeholderMismatch (key : Key) (mismatch : Placeholder.Mismatch)
  | pluralFormCount (key : Key) (expected found : Nat)
  /-- plural forms although the text does not depend on a number -/
  | unexpectedPluralForms (key : Key)
  /-- `position` counts the contexts in front of it -/
  | emptyContextName (position : Nat)
  deriving Repr, DecidableEq

/-- An issue in words. -/
def Issue.text : Issue → String
  | .duplicateKey key => "duplicate message " ++ key.text
  | .placeholderMismatch key mismatch =>
    "placeholder mismatch in " ++ key.text ++ ": " ++ mismatch.text
  | .pluralFormCount key expected found =>
    key.text ++ s!": expected {expected} plural form(s), found {found}"
  | .unexpectedPluralForms key => key.text ++ ": plural forms on a non-numerus message"
  | .emptyContextName position => "context #" ++ toString (position + 1) ++ " has an empty name"

namespace Message

/-- What is wrong with the forms of a finished message. -/
def formIssue? (context : String) (message : Message) : Option Issue :=
  match message.target with
  | .plural _ => if message.numerus then none else some (.unexpectedPluralForms (message.key context))
  | .singular _ => none

/-- What is wrong with the arguments of a finished message: its first text that is not empty
and refers to others. -/
def placeholderIssue? (context : String) (message : Message) : Option Issue :=
  (message.target.texts.filter (!·.isEmpty)).findSome? fun text =>
    (Placeholder.compare message.source text message.numerus).map fun mismatch =>
      .placeholderMismatch (message.key context) mismatch

/-- What is wrong with a message by itself. -/
def issues (context : String) (message : Message) : List Issue :=
  match message.status with
  | .finished => (message.formIssue? context).toList ++ (message.placeholderIssue? context).toList
  | _ => []

end Message

namespace Catalog

/-- The contexts whose name is blank. -/
def contextIssues (catalog : Catalog) : List Issue :=
  catalog.contexts.zipIdx.filterMap fun (context, position) =>
    if isBlankText context.name then some (.emptyContextName position) else none

/-- The messages with too many or too few forms. -/
def formCountIssues (catalog : Catalog) : List Issue :=
  catalog.pluralReports.map fun report =>
    .pluralFormCount ⟨report.context, report.source, report.comment.getD ""⟩ report.expected
      report.found

/-- Everything that is wrong in a catalogue. -/
def issues (catalog : Catalog) : List Issue :=
  catalog.contextIssues
    ++ catalog.duplicateKeys.map .duplicateKey
    ++ catalog.messages.flatMap (fun (context, message) => message.issues context)
    ++ catalog.formCountIssues

end Catalog

end Linguist
