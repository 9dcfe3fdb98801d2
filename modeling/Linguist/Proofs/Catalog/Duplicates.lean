import Linguist.Proofs.Catalog.Keys
import Linguist.Proofs.Catalog.Reading
import Linguist.Proofs.Issue
import Linguist.Proofs.Phrasebook

/-!
# Linguist — keys that occur again, found in three ways

A catalogue lists the keys that occur again, its check reports them, and its
phrasebook refuses the first of them. The list is told by positions: it holds
each key once for every occurrence behind the first. A phrasebook enters one
message after the other and never meets those that are not shipped, so it stops
where the list of the shipped messages starts.

* `count_repeats`, `repeats_eq_filter` — how often a key is listed, and in which order.
* `Catalog.messages_activePart` — the messages of the part that is shipped.
* `Phrasebook.repeats_of_foldlM_enter` — entering stops at the first key that occurs again.
* `Catalog.duplicates_agree` — the list, the issues and the phrasebook.
-/

namespace Linguist

/-! ## Members that occur again -/

section Repeats

variable {α : Type} [DecidableEq α]

/-- A member occurs among the repeated ones as often as it occurs after its first occurrence. -/
theorem count_repeats (a : α) (xs seen : List α) :
    (repeats seen xs).count a = if a ∈ seen then xs.count a else xs.count a - 1 := by
  induction xs generalizing seen with
  | nil => simp [repeats]
  | cons x xs ih =>
    rw [repeats]
    by_cases hSeen : x ∈ seen
    · rw [if_pos hSeen, List.count_cons, ih, List.count_cons]
      by_cases hSame : x = a
      · subst hSame
        simp [hSeen]
      · simp [hSame]
    · rw [if_neg hSeen, ih, List.count_cons]
      by_cases hSame : x = a
      · -- the first occurrence is left out, and all later ones count
        subst hSame
        simp [hSeen]
      · simp [hSame, Ne.symm hSame]

/-- The repeated members stand in the order of their positions, each where it occurs again. -/
theorem repeats_eq_filter {before seen : List α} (xs : List α)
    (hSeen : ∀ a, a ∈ seen ↔ a ∈ before) :
    repeats seen xs = ((xs.zipIdx before.length).filter fun (a, position) =>
      a ∈ (before ++ xs).take position).map Prod.fst := by
  induction xs generalizing before seen with
  | nil => rfl
  | cons x xs ih =>
    have hHere : (before ++ x :: xs).take before.length = before := List.take_left
    have hShift : before ++ x :: xs = (before ++ [x]) ++ xs := by simp
    -- behind this member, the members before are one more, if it is a new one
    have hRest : ∀ seen', (∀ a, a ∈ seen' ↔ a ∈ before ++ [x]) → repeats seen' xs
        = ((xs.zipIdx (before.length + 1)).filter fun (a, position) =>
          a ∈ (before ++ x :: xs).take position).map Prod.fst := by
      intro seen' hSeen'
      rw [ih hSeen', hShift, List.length_append, List.length_singleton]
    rw [repeats, List.zipIdx_cons]
    by_cases hOld : x ∈ seen
    · rw [if_pos hOld, List.filter_cons_of_pos (by simpa [hHere] using (hSeen x).mp hOld),
        List.map_cons, hRest seen fun a => ?_]
      rw [List.mem_append, List.mem_singleton, ← hSeen a]
      exact ⟨.inl, fun h => h.elim id fun hEq => hEq ▸ hOld⟩
    · rw [if_neg hOld, List.filter_cons_of_neg (by simpa [hHere] using mt (hSeen x).mpr hOld),
        hRest (x :: seen) fun a => ?_]
      rw [List.mem_append, List.mem_singleton, List.mem_cons, ← hSeen a, or_comm]

end Repeats

/-! ## The list and the issues -/

/-- The key that an issue says occurs again. -/
def Issue.duplicateKey? : Issue → Option Key
  | .duplicateKey key => some key
  | _ => none

namespace Catalog

theorem count_duplicateKeys (catalog : Catalog) (key : Key) :
    catalog.duplicateKeys.count key = catalog.keys.count key - 1 := by
  rw [duplicateKeys, count_repeats]
  simp

theorem duplicateKeys_eq_filter (catalog : Catalog) :
    catalog.duplicateKeys = (catalog.keys.zipIdx.filter fun (key, position) =>
      key ∈ catalog.keys.take position).map Prod.fst := by
  have hNone : ∀ key, key ∈ ([] : List Key) ↔ key ∈ ([] : List Key) := fun _ => .rfl
  exact repeats_eq_filter catalog.keys hNone

/-- No other check of a message tells of a key that occurs again. -/
theorem filterMap_duplicateKey_message (name : String) (message : Message) :
    (message.issues name).filterMap Issue.duplicateKey? = [] := by
  rw [List.filterMap_eq_nil_iff]
  intro issue hIssue
  unfold Message.issues at hIssue
  split at hIssue
  · rcases List.mem_append.mp hIssue with hForms | hPlaceholders
    · rw [Option.mem_toList, Message.formIssue?] at hForms
      split at hForms
      · split at hForms
        · cases hForms
        · cases hForms
          rfl
      · cases hForms
    · rw [Option.mem_toList, Message.placeholderIssue?] at hPlaceholders
      obtain ⟨text, -, hText⟩ := List.exists_of_findSome?_eq_some hPlaceholders
      obtain ⟨mismatch, -, rfl⟩ := Option.map_eq_some_iff.mp hText
      rfl
  · cases hIssue

/-- The issues of keys that occur again are the list of these keys. -/
theorem filterMap_duplicateKey_issues (catalog : Catalog) :
    catalog.issues.filterMap Issue.duplicateKey? = catalog.duplicateKeys := by
  have hContexts : catalog.contextIssues.filterMap Issue.duplicateKey? = [] := by
    rw [contextIssues, List.filterMap_filterMap, List.filterMap_eq_nil_iff]
    rintro ⟨context, position⟩ -
    dsimp only
    split <;> rfl
  have hMessages : ∀ entry ∈ catalog.messages,
      (entry.2.issues entry.1).filterMap Issue.duplicateKey? = [] :=
    fun entry _ => filterMap_duplicateKey_message entry.1 entry.2
  have hCounts : catalog.formCountIssues.filterMap Issue.duplicateKey? = [] := by
    rw [formCountIssues, List.filterMap_map, List.filterMap_eq_nil_iff]
    exact fun _ _ => rfl
  have hKeys : (catalog.duplicateKeys.map Issue.duplicateKey).filterMap Issue.duplicateKey?
      = catalog.duplicateKeys := by
    rw [List.filterMap_map]
    exact List.filterMap_some
  rw [issues, List.filterMap_append, List.filterMap_append, List.filterMap_append, hContexts,
    hKeys, hCounts, List.filterMap_flatMap, List.flatMap_eq_nil_iff.mpr]
  · simp
  · exact hMessages

/-! ## The part that is shipped -/

theorem messages_activePart (catalog : Catalog) :
    catalog.activePart.messages = Phrasebook.active catalog := by
  unfold messages activePart Phrasebook.active messages
  rw [List.flatMap_map, List.filter_flatMap]
  congr 1
  funext context
  rw [List.filter_map]
  rfl

/-- A key that occurs again among the shipped messages occurs again among all. -/
theorem mem_duplicateKeys_of_activePart {catalog : Catalog} {key : Key}
    (h : key ∈ catalog.activePart.duplicateKeys) : key ∈ catalog.duplicateKeys := by
  have hSublist : catalog.activePart.keys.Sublist catalog.keys := by
    unfold keys
    rw [messages_activePart]
    exact List.filter_sublist.map _
  have hCount := hSublist.count_le key
  rw [← List.count_pos_iff, count_duplicateKeys] at h ⊢
  omega

end Catalog

/-! ## The phrasebook -/

namespace Phrasebook

/-- Entering messages stops at the first key that occurs again, in the table or among them. -/
theorem repeats_of_foldlM_enter (active : List (String × Message)) {entries : Entries}
    {seen : List Key} (hSeen : ∀ key, key ∈ seen ↔ entries.at? key ≠ none) :
    match active.foldlM Entries.enter entries with
    | .ok _ => repeats seen (active.map fun entry => entry.2.key entry.1) = []
    | .error key =>
      (repeats seen (active.map fun entry => entry.2.key entry.1)).head? = some key := by
  -- the table grows by the keys that are new, just as what was seen does
  induction active generalizing entries seen with
  | nil => rfl
  | cons entry active ih =>
    rw [List.foldlM_cons, List.map_cons, repeats]
    by_cases hTaken : entry.2.key entry.1 ∈ seen
    · -- the key is in the table, and so it is the first that occurs again
      rw [Entries.enter_eq_error ((hSeen _).mp hTaken), if_pos hTaken]
      rfl
    · have hFree : entries.at? (entry.2.key entry.1) = none :=
        not_not.mp (mt (hSeen _).mpr hTaken)
      rw [Entries.enter_eq_ok_iff.mpr ⟨hFree, rfl⟩, if_neg hTaken]
      refine ih fun key => ?_
      rw [List.mem_cons, Entries.at?_add, hSeen]
      by_cases hKey : entry.2.key entry.1 = key
      · simp [hKey]
      · simp [hKey, Ne.symm hKey]

/-- A phrasebook refuses the first key that occurs again among the shipped messages. -/
theorem withRule_eq_error_iff {catalog : Catalog} {rule : PluralRule} {key : Key} :
    withRule catalog rule = .error key ↔
      catalog.activePart.duplicateKeys.head? = some key := by
  have hKeys : catalog.activePart.duplicateKeys
      = repeats [] ((active catalog).map fun entry => entry.2.key entry.1) := by
    rw [Catalog.duplicateKeys, Catalog.keys, Catalog.messages_activePart]
  have hBook : withRule catalog rule = (active catalog).foldlM Entries.enter .empty >>= fun entries =>
      .ok { language := catalog.language, rule, entries } := rfl
  have hNone : ∀ key, key ∈ ([] : List Key) ↔ Entries.empty.at? key ≠ none := by simp
  have hEnter := repeats_of_foldlM_enter (active catalog) hNone
  rw [← hKeys] at hEnter
  rw [hBook]
  cases hFold : (active catalog).foldlM Entries.enter .empty with
  | ok entries =>
    rw [hFold] at hEnter
    simp [hEnter, bind, Except.bind]
  | error first =>
    rw [hFold] at hEnter
    simp [hEnter, bind, Except.bind]

end Phrasebook

/-! ## The three ways -/

/-- **The list, the issues and the phrasebook agree.** The list holds each key one time fewer than it
occurs, by the positions of its later occurrences; the issues tell the same keys in the same order;
and there is a phrasebook unless the list of the shipped messages has a first key, which is then
refused. So a catalogue without such keys, as every strict reading gives it, has a phrasebook, and a
key that is refused is among the issues. -/
theorem Catalog.duplicates_agree (catalog : Catalog) :
    (∀ key, catalog.duplicateKeys.count key = catalog.keys.count key - 1) ∧
      catalog.duplicateKeys = (catalog.keys.zipIdx.filter fun (key, position) =>
        key ∈ catalog.keys.take position).map Prod.fst ∧
      catalog.issues.filterMap Issue.duplicateKey? = catalog.duplicateKeys ∧
      ∀ rule,
        (∀ key, Phrasebook.withRule catalog rule = .error key ↔
          catalog.activePart.duplicateKeys.head? = some key) ∧
        (catalog.duplicateKeys = [] → ∃ book, Phrasebook.withRule catalog rule = .ok book) ∧
        (∀ (tree : FileTree) path format mode, mode.strict = true →
          (tree.readCatalog path format mode).result = .ok catalog →
          ∃ book, Phrasebook.withRule catalog rule = .ok book) ∧
        ∀ key, Phrasebook.withRule catalog rule = .error key →
          .duplicateKey key ∈ catalog.issues := by
  refine ⟨catalog.count_duplicateKeys, catalog.duplicateKeys_eq_filter,
    catalog.filterMap_duplicateKey_issues, fun rule => ?_⟩
  -- a key that is refused is in the list
  have hRefused : ∀ key, Phrasebook.withRule catalog rule = .error key →
      key ∈ catalog.duplicateKeys := fun key h =>
    mem_duplicateKeys_of_activePart
      (List.mem_of_head? (Phrasebook.withRule_eq_error_iff.mp h))
  have hBuilt : catalog.duplicateKeys = [] →
      ∃ book, Phrasebook.withRule catalog rule = .ok book := by
    intro hNone
    cases hBook : Phrasebook.withRule catalog rule with
    | ok book => exact ⟨book, rfl⟩
    | error key => exact absurd (hNone ▸ hRefused key hBook) List.not_mem_nil
  refine ⟨fun key => Phrasebook.withRule_eq_error_iff, hBuilt,
    fun tree path format mode hStrict hRead =>
      hBuilt (FileTree.duplicateKeys_of_readCatalog hStrict hRead), fun key h => ?_⟩
  have hIssue : Issue.duplicateKey key ∈ catalog.duplicateKeys.map .duplicateKey :=
    List.mem_map_of_mem (hRefused key h)
  unfold issues
  simp only [List.mem_append]
  exact .inl (.inl (.inr hIssue))

/-- A key three times over two contexts of one name, without a comment and with an empty one; the
first of them is not shipped, and another key occurs again only among those that are not. -/
theorem Catalog.duplicates_agree_split :
    let plain := Message.ofTexts "s" "t"
    let gone := { plain with status := .vanished }
    let other := { Message.pending "o" with status := .obsolete }
    let catalog : Catalog := {
      contexts := [
        { name := "a", messages := [gone, other, plain] },
        { name := "b" },
        { name := "a", messages := [other, { plain with comment := some "" }] }] }
    catalog.duplicateKeys = [⟨"a", "s", ""⟩, ⟨"a", "o", ""⟩, ⟨"a", "s", ""⟩] ∧
      ∀ rule, Phrasebook.withRule catalog rule = .error ⟨"a", "s", ""⟩ ∧
        .duplicateKey ⟨"a", "s", ""⟩ ∈ catalog.issues := by
  intro plain gone other catalog
  obtain ⟨-, -, -, hBook⟩ := catalog.duplicates_agree
  refine ⟨by decide, fun rule => ?_⟩
  obtain ⟨hError, -, -, hIssue⟩ := hBook rule
  have hRefused := (hError ⟨"a", "s", ""⟩).mpr (by decide)
  exact ⟨hRefused, hIssue _ hRefused⟩

end Linguist
