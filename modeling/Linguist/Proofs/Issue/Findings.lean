import Linguist.Error
import Linguist.Proofs.Catalog.Normal
import Linguist.Proofs.Issue
import Linguist.Proofs.Placeholder
import Mathlib.Data.List.Forall2
import Mathlib.Data.List.Sort

/-!
# Linguist — what the check of a catalogue finds

Each pass of the check leaves out some messages and reports the others in a form
of its own. Here it is said without the passes what is wrong with a context, a
message or a number of forms, and what is told of it; the check tells this and
nothing else, each thing once and in order.

* `Catalog.IsSound` — catalogues with nothing wrong in them.
* `Message.ShapeIssues`, `Message.TextIssues`, `Message.CountIssues` — what is told of a message.
* `Catalog.issues_exact` — the check finds what is wrong, and is silent just if nothing is.
-/

namespace Linguist

/-! ## What is wrong -/

namespace Message

/-- Whether a finished message has forms although its text does not depend on a number. -/
def IsMisshapen (message : Message) : Prop :=
  message.status = .finished ∧ message.numerus = false ∧ ∃ forms, message.target = .plural forms

/-- Whether a text of a finished message refers to other arguments than the source; an empty text is
left so on purpose. -/
def IsOffending (message : Message) (text : String) : Prop :=
  message.status = .finished ∧ text ≠ "" ∧
    ¬ Placeholder.Agree message.numerus message.source text

/-- Whether a message that depends on a number has another number of forms; while it is unfinished
it may have none. -/
def IsMiscounted (count : Nat) (message : Message) : Prop :=
  message.numerus = true ∧ (message.status = .finished ∨ message.status = .unfinished) ∧
    ∃ forms, message.target = .plural forms ∧ forms.length ≠ count ∧
      ¬ (message.status = .unfinished ∧ forms = [])

/-- What is told of the shape of a target. -/
inductive ShapeIssues (context : String) (message : Message) : List Issue → Prop
  | fitting : ¬ message.IsMisshapen → ShapeIssues context message []
  | misshapen : message.IsMisshapen →
      ShapeIssues context message [.unexpectedPluralForms (message.key context)]

/-- What is told of the texts of a target: the arguments that only the source or only the first text
that offends refers to. -/
inductive TextIssues (context : String) (message : Message) : List Issue → Prop
  | agreeing : (∀ text ∈ message.target.texts, ¬ message.IsOffending text) →
      TextIssues context message []
  | offending {before after : List String} {text : String} :
      message.target.texts = before ++ text :: after →
      (∀ earlier ∈ before, ¬ message.IsOffending earlier) → message.IsOffending text →
      TextIssues context message [.placeholderMismatch (message.key context)
        ⟨Placeholder.onlyIn message.numerus message.source text,
          Placeholder.onlyIn message.numerus text message.source⟩]

/-- What is told of the number of forms. -/
inductive CountIssues (count : Nat) (context : String) (message : Message) : List Issue → Prop
  | fitting : ¬ message.IsMiscounted count → CountIssues count context message []
  | miscounted {forms : List String} : message.IsMiscounted count →
      message.target = .plural forms →
      CountIssues count context message
        [.pluralFormCount (message.key context) count forms.length]

end Message

/-- Whether nothing is wrong with a catalogue. -/
structure Catalog.IsSound (catalog : Catalog) : Prop where
  named : ∀ context ∈ catalog.contexts, trimmed context.name ≠ ""
  distinct : catalog.keys.Nodup
  shaped : ∀ entry ∈ catalog.messages, entry.2.status = .finished → entry.2.numerus = false →
    ∃ text, entry.2.target = .singular text
  agreeing : ∀ entry ∈ catalog.messages, entry.2.status = .finished →
    ∀ text ∈ entry.2.target.texts, text ≠ "" →
      Placeholder.Agree entry.2.numerus entry.2.source text
  counted : ∀ entry ∈ catalog.messages, entry.2.numerus = true →
    entry.2.status = .finished ∨ entry.2.status = .unfinished →
    ∀ forms, entry.2.target = .plural forms →
      forms.length = catalog.pluralRule.formCount ∨ entry.2.status = .unfinished ∧ forms = []

/-- What is told of a catalogue, in order: the contexts without a name, the keys that occur again,
then the messages one by one, and once more for their numbers of forms. -/
inductive Catalog.IsReport (catalog : Catalog) : List Issue → Prop
  | inOrder {unnamed : List Nat} {own counted : List (List Issue)} :
      unnamed.Pairwise (· < ·) →
      (∀ position, position ∈ unnamed ↔
        ∃ context, catalog.contexts[position]? = some context ∧ trimmed context.name = "") →
      List.Forall₂ (fun entry issues => ∃ shape texts, entry.2.ShapeIssues entry.1 shape ∧
        entry.2.TextIssues entry.1 texts ∧ issues = shape ++ texts) catalog.messages own →
      List.Forall₂ (fun entry issues =>
        entry.2.CountIssues catalog.pluralRule.formCount entry.1 issues) catalog.messages counted →
      IsReport catalog (unnamed.map .emptyContextName ++ catalog.duplicateKeys.map .duplicateKey
        ++ own.flatten ++ counted.flatten)

/-! ## One report -/

namespace Message

variable {name : String} {message : Message} {told told' : List Issue} {count : Nat}

theorem ShapeIssues.eq_nil_iff (h : message.ShapeIssues name told) :
    told = [] ↔ ¬ message.IsMisshapen := by
  cases h with
  | fitting h => simp [h]
  | misshapen h => simp [h]

theorem ShapeIssues.unique (h : message.ShapeIssues name told)
    (h' : message.ShapeIssues name told') : told = told' := by
  cases h with
  | fitting h => exact (h'.eq_nil_iff.mpr h).symm
  | misshapen h =>
    cases h' with
    | fitting h' => exact absurd h h'
    | misshapen _ => rfl

theorem TextIssues.eq_nil_iff (h : message.TextIssues name told) :
    told = [] ↔ ∀ text ∈ message.target.texts, ¬ message.IsOffending text := by
  cases h with
  | agreeing h => exact iff_of_true rfl h
  | offending hTexts _ hOffending =>
    refine iff_of_false (List.cons_ne_nil _ _) fun h => h _ ?_ hOffending
    simp [hTexts]

/-- Only one text is the first that offends. -/
theorem eq_of_first_offending {before before' after after' : List String} {text text' : String}
    (h : before ++ text :: after = before' ++ text' :: after')
    (hBefore : ∀ earlier ∈ before, ¬ message.IsOffending earlier) (hText : message.IsOffending text)
    (hBefore' : ∀ earlier ∈ before', ¬ message.IsOffending earlier)
    (hText' : message.IsOffending text') : text = text' := by
  -- were one behind the other, it would offend in front of it
  rcases List.append_eq_append_iff.mp h with ⟨between, rfl, hAfter⟩ | ⟨between, rfl, hAfter⟩
  · cases between with
    | nil => exact (List.cons.inj hAfter).1
    | cons first rest =>
      obtain rfl := (List.cons.inj hAfter).1
      exact absurd hText (hBefore' _ (by simp))
  · cases between with
    | nil => exact (List.cons.inj hAfter).1.symm
    | cons first rest =>
      obtain rfl := (List.cons.inj hAfter).1
      exact absurd hText' (hBefore _ (by simp))

theorem TextIssues.unique (h : message.TextIssues name told)
    (h' : message.TextIssues name told') : told = told' := by
  cases h with
  | agreeing h => exact (h'.eq_nil_iff.mpr h).symm
  | offending hTexts hBefore hText =>
    cases h' with
    | agreeing h' => exact absurd hText (h' _ (by simp [hTexts]))
    | offending hTexts' hBefore' hText' =>
      rw [eq_of_first_offending (hTexts.symm.trans hTexts') hBefore hText hBefore' hText']

theorem CountIssues.eq_nil_iff (h : message.CountIssues count name told) :
    told = [] ↔ ¬ message.IsMiscounted count := by
  cases h with
  | fitting h => simp [h]
  | miscounted h _ => simp [h]

theorem CountIssues.unique (h : message.CountIssues count name told)
    (h' : message.CountIssues count name told') : told = told' := by
  cases h with
  | fitting h => exact (h'.eq_nil_iff.mpr h).symm
  | miscounted h hTarget =>
    cases h' with
    | fitting h' => exact absurd h h'
    | miscounted _ hTarget' => rw [Target.plural.inj (hTarget.symm.trans hTarget')]

end Message

/-- There is one report on a catalogue. -/
theorem Catalog.IsReport.unique {catalog : Catalog} {issues issues' : List Issue}
    (h : catalog.IsReport issues) (h' : catalog.IsReport issues') : issues = issues' := by
  cases h with
  | inOrder hSorted hUnnamed hOwn hCounted =>
  cases h' with
  | inOrder hSorted' hUnnamed' hOwn' hCounted' =>
  have hPositions := hSorted.eq_of_mem_iff hSorted' fun position =>
    (hUnnamed position).trans (hUnnamed' position).symm
  have hMessages : Relator.RightUnique fun (entry : String × Message) (told : List Issue) =>
      ∃ shape texts, entry.2.ShapeIssues entry.1 shape ∧ entry.2.TextIssues entry.1 texts ∧
        told = shape ++ texts := by
    rintro entry told told' ⟨shape, texts, hShape, hTexts, rfl⟩
      ⟨shape', texts', hShape', hTexts', rfl⟩
    rw [hShape.unique hShape', hTexts.unique hTexts']
  have hCounts : Relator.RightUnique fun (entry : String × Message) (told : List Issue) =>
      entry.2.CountIssues catalog.pluralRule.formCount entry.1 told :=
    fun _ _ _ hTold hTold' => hTold.unique hTold'
  rw [hPositions, List.right_unique_forall₂' hMessages hOwn hOwn',
    List.right_unique_forall₂' hCounts hCounted hCounted']

/-! ## Contexts -/

namespace Catalog

/-- The positions of the contexts without a name. -/
def unnamed (catalog : Catalog) : List Nat :=
  (catalog.contexts.zipIdx.filter fun (context, _) => isBlankText context.name).map Prod.snd

theorem contextIssues_eq_map (catalog : Catalog) :
    catalog.contextIssues = catalog.unnamed.map .emptyContextName := by
  rw [contextIssues, unnamed, List.map_map, ← List.filterMap_eq_map, List.filterMap_filter]
  rfl

theorem pairwise_unnamed (catalog : Catalog) : catalog.unnamed.Pairwise (· < ·) := by
  have hAll : (catalog.contexts.zipIdx.map Prod.snd).Pairwise (· < ·) := by
    rw [List.zipIdx_map_snd]
    exact List.pairwise_lt_range'
  exact hAll.sublist (List.filter_sublist.map _)

theorem mem_unnamed_iff {catalog : Catalog} {position : Nat} :
    position ∈ catalog.unnamed ↔
      ∃ context, catalog.contexts[position]? = some context ∧ trimmed context.name = "" := by
  simp only [unnamed, List.mem_map, List.mem_filter, Prod.exists, exists_eq_right,
    List.mk_mem_zipIdx_iff_getElem?, ← isEmpty_trimmed, String.isEmpty_iff]

end Catalog

/-! ## Messages -/

namespace Message

section Finished

variable {name : String} {message : Message} (hStatus : message.status = .finished)

include hStatus

theorem shapeIssues_formIssue? : message.ShapeIssues name (message.formIssue? name).toList := by
  unfold formIssue?
  cases hTarget : message.target with
  | singular text =>
    refine .fitting ?_
    rintro ⟨-, -, forms, hForms⟩
    cases hTarget.symm.trans hForms
  | plural forms =>
    cases hNumerus : message.numerus with
    | true => exact .fitting fun h => by simp [IsMisshapen, hNumerus] at h
    | false => exact .misshapen ⟨hStatus, hNumerus, forms, hTarget⟩

theorem textIssues_placeholderIssue? :
    message.TextIssues name (message.placeholderIssue? name).toList := by
  -- a text that is passed over is empty or compares well
  have hPassed (text : String) (h : text ≠ "" →
      Placeholder.compare message.source text message.numerus = none) :
      ¬ message.IsOffending text := by
    rintro ⟨-, hText, hDiffer⟩
    exact hDiffer (Placeholder.compare_eq_none_iff.mp (h hText))
  cases hFind : message.placeholderIssue? name with
  | none =>
    refine .agreeing fun text hText => hPassed text fun hNonempty => ?_
    have hNone := List.findSome?_eq_none_iff.mp hFind text
      (List.mem_filter.mpr ⟨hText, by simpa using hNonempty⟩)
    exact Option.map_eq_none_iff.mp hNone
  | some issue =>
    obtain ⟨_, text, _, hFilter, hIssue, hBefore⟩ := List.findSome?_eq_some_iff.mp hFind
    obtain ⟨_, hMismatch, rfl⟩ := Option.map_eq_some_iff.mp hIssue
    obtain ⟨hDiffer, rfl⟩ := Placeholder.compare_eq_some_iff.mp hMismatch
    -- in front of it stand texts that were compared, then maybe empty ones
    obtain ⟨compared, rest, hTexts, rfl, hRest⟩ := List.filter_eq_append_iff.mp hFilter
    obtain ⟨empty, after, rfl, hEmpty, hText, -⟩ := List.filter_eq_cons_iff.mp hRest
    have hTexts : message.target.texts = (compared ++ empty) ++ text :: after := by
      rw [hTexts, List.append_assoc]
    refine .offending hTexts (fun earlier hEarlier => hPassed earlier fun hNonempty => ?_)
      ⟨hStatus, by simpa using hText, hDiffer⟩
    rcases List.mem_append.mp hEarlier with hCompared | hSkipped
    · have hNone := hBefore earlier (List.mem_filter.mpr ⟨hCompared, by simpa using hNonempty⟩)
      exact Option.map_eq_none_iff.mp hNone
    · exact absurd (hEmpty earlier hSkipped) (by simpa using hNonempty)

end Finished

/-- What is told of a message by itself. -/
theorem exists_issues (name : String) (message : Message) :
    ∃ shape texts, message.ShapeIssues name shape ∧ message.TextIssues name texts ∧
      message.issues name = shape ++ texts := by
  by_cases hStatus : message.status = .finished
  · refine ⟨_, _, shapeIssues_formIssue? hStatus, textIssues_placeholderIssue? hStatus, ?_⟩
    rw [issues, hStatus]
  · refine ⟨[], [], .fitting fun h => hStatus h.1, .agreeing fun _ _ h => hStatus h.1, ?_⟩
    unfold issues
    split
    · contradiction
    · rfl

theorem isActive_iff {message : Message} : message.isActive = true ↔
    message.status = .finished ∨ message.status = .unfinished := by
  unfold isActive
  cases message.status <;> simp

/-- The forms of a message are counted if it depends on a number and is shipped, unless they are
still to be written. -/
theorem countedForms?_eq_some_iff {message : Message} {found : Nat} :
    message.countedForms? = some found ↔
      message.numerus = true ∧ (message.status = .finished ∨ message.status = .unfinished) ∧
        ∃ forms, message.target = .plural forms ∧ forms.length = found ∧
          ¬ (message.status = .unfinished ∧ forms = []) := by
  unfold countedForms?
  cases message.target with
  | singular text => simp
  | plural forms =>
    have hPending : (!(forms.isEmpty && message.status == .unfinished)) = true ↔
        ¬ (message.status = .unfinished ∧ forms = []) := by
      simp
      tauto
    rw [Option.ite_none_right_eq_some, Bool.and_eq_true, Bool.and_eq_true, isActive_iff, hPending]
    simp only [Option.some.injEq, Target.plural.injEq, exists_eq_left']
    tauto

/-- A message is miscounted if its forms are counted and are not as many as they should be. -/
theorem isMiscounted_iff {message : Message} {count : Nat} :
    message.IsMiscounted count ↔ ∃ found, message.countedForms? = some found ∧ found ≠ count := by
  simp only [countedForms?_eq_some_iff]
  constructor
  · rintro ⟨hNumerus, hStatus, forms, hTarget, hLength, hForms⟩
    exact ⟨_, ⟨hNumerus, hStatus, forms, hTarget, rfl, hForms⟩, hLength⟩
  · rintro ⟨_, ⟨hNumerus, hStatus, forms, hTarget, rfl, hForms⟩, hLength⟩
    exact ⟨hNumerus, hStatus, forms, hTarget, hLength, hForms⟩

/-- A message has no issue of its own just if its shape fits and none of its texts offends. -/
theorem issues_eq_nil_iff {name : String} {message : Message} :
    message.issues name = [] ↔
      ¬ message.IsMisshapen ∧ ∀ text ∈ message.target.texts, ¬ message.IsOffending text := by
  obtain ⟨shape, texts, hShape, hTexts, hIssues⟩ := exists_issues name message
  rw [hIssues, List.append_eq_nil_iff, hShape.eq_nil_iff, hTexts.eq_nil_iff]

end Message

/-! ## Numbers of forms -/

namespace Catalog

variable {catalog : Catalog}

/-- What is told of the number of forms of one message. -/
def countIssue? (catalog : Catalog) (name : String) (message : Message) : Option Issue :=
  (catalog.pluralReport? name message).map fun report =>
    .pluralFormCount ⟨report.context, report.source, report.comment.getD ""⟩ report.expected
      report.found

theorem countIssues_countIssue? (name : String) (message : Message) :
    message.CountIssues catalog.pluralRule.formCount name
      (catalog.countIssue? name message).toList := by
  unfold countIssue? pluralReport?
  cases hCounted : message.countedForms? with
  | none => exact .fitting fun h => by simp [Message.isMiscounted_iff, hCounted] at h
  | some found =>
    dsimp only
    by_cases hFits : found = catalog.pluralRule.formCount
    · rw [if_pos hFits]
      exact .fitting fun h => by simp [Message.isMiscounted_iff, hCounted, hFits] at h
    · rw [if_neg hFits]
      obtain ⟨-, -, forms, hTarget, rfl, -⟩ := Message.countedForms?_eq_some_iff.mp hCounted
      exact .miscounted (Message.isMiscounted_iff.mpr ⟨_, hCounted, hFits⟩) hTarget

theorem formCountIssues_eq_flatten (catalog : Catalog) :
    catalog.formCountIssues = (catalog.messages.map fun entry =>
      (catalog.countIssue? entry.1 entry.2).toList).flatten := by
  rw [formCountIssues, pluralReports, List.map_filterMap, ← List.flatMap_def,
    List.filterMap_eq_flatMap_toList]
  rfl

/-- No message is reported just if none is miscounted. -/
theorem pluralReports_eq_nil_iff : catalog.pluralReports = [] ↔
    ∀ entry ∈ catalog.messages, ¬ entry.2.IsMiscounted catalog.pluralRule.formCount := by
  rw [pluralReports, List.filterMap_eq_nil_iff]
  refine forall₂_congr fun entry _ => ?_
  rw [← (countIssues_countIssue? entry.1 entry.2).eq_nil_iff, countIssue?]
  simp

/-! ## The whole catalogue -/

theorem contextIssues_eq_nil_iff :
    catalog.contextIssues = [] ↔ ∀ context ∈ catalog.contexts, trimmed context.name ≠ "" := by
  rw [contextIssues_eq_map, List.map_eq_nil_iff, List.eq_nil_iff_forall_not_mem]
  constructor
  · intro h context hContext hName
    obtain ⟨position, hAt⟩ := List.mem_iff_getElem?.mp hContext
    exact h position (mem_unnamed_iff.mpr ⟨context, hAt, hName⟩)
  · intro h position hPosition
    obtain ⟨context, hAt, hName⟩ := mem_unnamed_iff.mp hPosition
    exact h context (List.mem_of_getElem? hAt) hName

theorem issues_eq_nil_iff_isSound : catalog.issues = [] ↔ catalog.IsSound := by
  rw [issues_eq_nil_iff, contextIssues_eq_nil_iff, pluralReports_eq_nil_iff]
  simp only [Message.issues_eq_nil_iff]
  constructor
  · rintro ⟨hNamed, hDistinct, hMessages, hCounts⟩
    refine ⟨hNamed, hDistinct, fun entry hEntry hStatus hNumerus => ?_,
      fun entry hEntry hStatus text hText hNonempty => ?_,
      fun entry hEntry hNumerus hStatus forms hTarget => ?_⟩
    · cases hTarget : entry.2.target with
      | singular text => exact ⟨text, rfl⟩
      | plural forms =>
        exact absurd ⟨hStatus, hNumerus, forms, hTarget⟩ (hMessages entry hEntry).1
    · by_contra hAgree
      exact (hMessages entry hEntry).2 text hText ⟨hStatus, hNonempty, hAgree⟩
    · by_contra hForms
      rw [not_or] at hForms
      exact hCounts entry hEntry ⟨hNumerus, hStatus, forms, hTarget, hForms⟩
  · rintro ⟨hNamed, hDistinct, hShaped, hAgreeing, hCounted⟩
    refine ⟨hNamed, hDistinct, fun entry hEntry => ⟨?_, fun text hText => ?_⟩,
      fun entry hEntry => ?_⟩
    · rintro ⟨hStatus, hNumerus, forms, hTarget⟩
      obtain ⟨text, hSingular⟩ := hShaped entry hEntry hStatus hNumerus
      cases hTarget.symm.trans hSingular
    · rintro ⟨hStatus, hNonempty, hAgree⟩
      exact hAgree (hAgreeing entry hEntry hStatus text hText hNonempty)
    · rintro ⟨hNumerus, hStatus, forms, hTarget, hLength, hForms⟩
      exact (hCounted entry hEntry hNumerus hStatus forms hTarget).elim hLength hForms

/-- The check tells just what is to be told. -/
theorem isReport_issues (catalog : Catalog) : catalog.IsReport catalog.issues := by
  rw [issues, contextIssues_eq_map, formCountIssues_eq_flatten, List.flatMap_def]
  refine .inOrder catalog.pairwise_unnamed (fun _ => mem_unnamed_iff) ?_ ?_
  · rw [List.forall₂_map_right_iff, List.forall₂_same]
    exact fun entry _ => Message.exists_issues entry.1 entry.2
  · rw [List.forall₂_map_right_iff, List.forall₂_same]
    exact fun entry _ => countIssues_countIssue? entry.1 entry.2

theorem validate_eq_error_iff {e : Error} :
    catalog.validate = .error e ↔ catalog.issues ≠ [] ∧ e = .issues catalog.issues := by
  unfold validate
  cases catalog.issues with
  | nil => simp
  | cons issue issues => simp [eq_comm]

theorem validatePlurals_eq_error_iff {e : Error} :
    catalog.validatePlurals = .error e ↔
      catalog.pluralReports ≠ [] ∧ e = .pluralReports catalog.pluralReports := by
  unfold validatePlurals
  cases catalog.pluralReports with
  | nil => simp
  | cons report reports => simp [eq_comm]

/-- **The check is exact.** It is silent just if nothing is wrong with a catalogue, and what it
finds is the one report on it. A catalogue is refused with its report, unless that is empty; for its
plural forms it is refused just if some message has another number of them than the rule of its
language. -/
theorem issues_exact (catalog : Catalog) :
    (catalog.issues = [] ↔ catalog.IsSound) ∧
    (∀ issues, catalog.IsReport issues ↔ issues = catalog.issues) ∧
    (∀ e, catalog.validate = .error e ↔ catalog.issues ≠ [] ∧ e = .issues catalog.issues) ∧
    ((∃ e, catalog.validatePlurals = .error e) ↔
      ∃ entry ∈ catalog.messages, entry.2.IsMiscounted catalog.pluralRule.formCount) := by
  refine ⟨issues_eq_nil_iff_isSound, fun issues => ⟨fun h => h.unique catalog.isReport_issues, ?_⟩,
    fun e => validate_eq_error_iff, ?_⟩
  · rintro rfl
    exact catalog.isReport_issues
  · simp only [validatePlurals_eq_error_iff, exists_and_left, exists_eq, and_true, ne_eq,
      pluralReports_eq_nil_iff, not_forall, not_not, exists_prop]

end Catalog

end Linguist
