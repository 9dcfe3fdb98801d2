import Linguist.Issue
import Linguist.Proofs.Catalog.Keys

/-!
# Linguist — catalogues without issues

A catalogue is checked in four passes, and each of them leaves out some of its
messages: those nobody ships, those that are still to be worked on, those with
one text. What holds of a catalogue without issues is put together here from
what the passes ask for.

* `Catalog.issues_eq_nil_iff` — the four passes.
* `Catalog.length_eq_formCount` — a finished message with forms has as many as the rule.
-/

namespace Linguist

namespace Message

/-- Forms are accepted on a finished message only if its text depends on a number. -/
theorem numerus_of_issues_eq_nil {name : String} {message : Message} {forms : List String}
    (h : message.issues name = []) (hStatus : message.status = .finished)
    (hTarget : message.target = .plural forms) : message.numerus = true := by
  rw [issues, hStatus] at h
  obtain ⟨hForms, -⟩ := List.append_eq_nil_iff.mp h
  rw [formIssue?, hTarget] at hForms
  by_contra hNumerus
  simp [hNumerus] at hForms

/-- The forms of a finished message that depends on a number are counted, even if there are
none. -/
theorem countedForms?_eq {message : Message} {forms : List String}
    (hStatus : message.status = .finished) (hNumerus : message.numerus = true)
    (hTarget : message.target = .plural forms) : message.countedForms? = some forms.length := by
  simp [countedForms?, hTarget, hStatus, hNumerus, isActive]

end Message

namespace Catalog

variable {catalog : Catalog}

/-- A catalogue has no issues just if none of the passes has one. -/
theorem issues_eq_nil_iff :
    catalog.issues = [] ↔ catalog.contextIssues = [] ∧ catalog.keys.Nodup ∧
      (∀ entry ∈ catalog.messages, entry.2.issues entry.1 = []) ∧
      catalog.pluralReports = [] := by
  rw [issues, formCountIssues]
  simp only [List.append_eq_nil_iff, List.map_eq_nil_iff, List.flatMap_eq_nil_iff,
    duplicateKeys_eq_nil_iff, and_assoc]

/-- Where no message is reported, those whose forms are counted have as many as the rule. -/
theorem eq_formCount_of_pluralReports_eq_nil {entry : String × Message} {found : Nat}
    (h : catalog.pluralReports = []) (hEntry : entry ∈ catalog.messages)
    (hCounted : entry.2.countedForms? = some found) : found = catalog.pluralRule.formCount := by
  have hReport : catalog.pluralReport? entry.1 entry.2 = none :=
    List.filterMap_eq_nil_iff.mp h entry hEntry
  rw [pluralReport?, hCounted] at hReport
  by_contra hFound
  simp [hFound] at hReport

/-- In a catalogue without issues, a finished message with forms has one for each index of the
rule. -/
theorem length_eq_formCount {entry : String × Message} {forms : List String}
    (h : catalog.issues = []) (hEntry : entry ∈ catalog.messages)
    (hStatus : entry.2.status = .finished) (hTarget : entry.2.target = .plural forms) :
    forms.length = catalog.pluralRule.formCount := by
  obtain ⟨-, -, hMessages, hReports⟩ := issues_eq_nil_iff.mp h
  -- forms on a message that does not depend on a number are not counted, but they are an issue
  have hNumerus := Message.numerus_of_issues_eq_nil (hMessages entry hEntry) hStatus hTarget
  exact eq_formCount_of_pluralReports_eq_nil hReports hEntry
    (Message.countedForms?_eq hStatus hNumerus hTarget)

end Catalog

end Linguist
