import Linguist.Issue
import Linguist.Json.Value

/-!
# Linguist — issues in JSON

An issue is an object that names its kind first.
-/

namespace Linguist

open Json (Value)

/-- The value of a key. -/
def Key.json (key : Key) : Value :=
  .object [("context", .text key.context), ("source", .text key.source),
    ("comment", .text key.comment)]

/-- The value of an argument. -/
def Argument.json : Argument → Value
  | .positional number => .object [("positional", .ofNat number)]
  | .count => .text "count"

/-- The value of a mismatch. -/
def Placeholder.Mismatch.json (mismatch : Placeholder.Mismatch) : Value :=
  .object [("missing", .list (mismatch.missing.map Argument.json)),
    ("unexpected", .list (mismatch.unexpected.map Argument.json))]

/-- The value of an issue. -/
def Issue.json : Issue → Value
  | .duplicateKey key => .object [("kind", .text "duplicate_key"), ("key", key.json)]
  | .placeholderMismatch key mismatch =>
    .object [("kind", .text "placeholder_mismatch"), ("key", key.json),
      ("mismatch", mismatch.json)]
  | .pluralFormCount key expected found =>
    .object [("kind", .text "plural_form_count"), ("key", key.json),
      ("expected", .ofNat expected), ("found", .ofNat found)]
  | .unexpectedPluralForms key =>
    .object [("kind", .text "unexpected_plural_forms"), ("key", key.json)]
  | .emptyContextName position =>
    .object [("kind", .text "empty_context_name"), ("position", .ofNat position)]

end Linguist
