import Linguist.Proofs.Issue
import Linguist.Proofs.Phrasebook
import Linguist.Proofs.Plural.Rule

/-!
# Linguist — a catalogue without issues resolves

Checking a catalogue and looking messages up go by different things: the checks
by what is finished, by forms that are counted and by keys that occur again, a
query by the status and the shape of the one message it finds. They fit
together: if a catalogue has no issues, its phrasebook can be built, and every
message of it answers for its own key, with the form the rule asks for.

* `exists_ofCatalog` — where all keys differ there is a phrasebook.
* `findMessage?_activePart` — a message that is shipped is found under its own key.
* `lookup_of_issues_eq_nil` — what each message of a catalogue without issues answers.
-/

namespace Linguist

/-- Whether a program is shipped with a message for a source text that has no comment. -/
def Catalog.HasPlain (catalog : Catalog) (name source : String) : Prop :=
  ∃ context ∈ catalog.contexts, context.name = name ∧
    ∃ message ∈ context.messages,
      message.isActive = true ∧ message.source = source ∧ message.commentText = ""

namespace Phrasebook

/-! ## Building -/

/-- Messages whose keys differ are entered, if their keys are free. -/
theorem exists_foldlM_enter {active : List (String × Message)} {entries : Entries}
    (hKeys : (active.map fun entry => entry.2.key entry.1).Nodup)
    (hFree : ∀ entry ∈ active, entries.at? (entry.2.key entry.1) = none) :
    ∃ last, active.foldlM Entries.enter entries = .ok last := by
  induction active generalizing entries with
  | nil => exact ⟨entries, rfl⟩
  | cons entry active ih =>
    rw [List.map_cons, List.nodup_cons] at hKeys
    obtain ⟨hNew, hKeys⟩ := hKeys
    have hEnter : entries.enter entry = .ok (entries.add entry) :=
      Entries.enter_eq_ok_iff.mpr ⟨hFree entry List.mem_cons_self, rfl⟩
    -- the other keys are still free, since none of them is the one that was taken now
    have hStillFree : ∀ other ∈ active, (entries.add entry).at? (other.2.key other.1) = none := by
      intro other hOther
      have hNe : entry.2.key entry.1 ≠ other.2.key other.1 := by
        intro hEq
        exact hNew (hEq ▸ List.mem_map_of_mem (f := fun entry => entry.2.key entry.1) hOther)
      rw [Entries.at?_add, if_neg hNe, Option.or_none]
      exact hFree other (List.mem_cons_of_mem _ hOther)
    obtain ⟨last, hLast⟩ := ih hKeys hStillFree
    refine ⟨last, ?_⟩
    rw [List.foldlM_cons, hEnter]
    exact hLast

theorem exists_ofCatalog {catalog : Catalog} (hKeys : catalog.keys.Nodup) :
    ∃ book, ofCatalog catalog = .ok book := by
  have hActive : ((active catalog).map fun entry => entry.2.key entry.1).Nodup :=
    hKeys.sublist (List.filter_sublist.map _)
  obtain ⟨entries, hEntries⟩ := exists_foldlM_enter hActive fun _ _ => Entries.at?_empty _
  exact ⟨⟨catalog.language, catalog.pluralRule, entries⟩,
    withRule_eq_ok_iff.mpr ⟨hEntries, rfl, rfl⟩⟩

/-! ## Finding -/

section Finding

variable {catalog : Catalog} {name : String} {message : Message}

/-- Where all keys differ, a message is found under its key just if it is shipped. -/
theorem findMessage?_activePart (hKeys : catalog.keys.Nodup)
    (hMessage : (name, message) ∈ catalog.messages) :
    catalog.activePart.findMessage? name message.source message.comment
      = if message.isActive = true then some message else none := by
  rw [← first?_active, first?]
  cases hFind : (active catalog).find? _ with
  | none =>
    -- no shipped message has the key, so this one is not shipped
    have hNone := List.find?_eq_none.mp hFind (name, message)
    have hInactive : message.isActive ≠ true := by
      intro hActive
      exact hNone (List.mem_filter.mpr ⟨hMessage, hActive⟩) (beq_iff_eq.mpr rfl)
    rw [if_neg hInactive]
    rfl
  | some entry =>
    -- what is found has the key, and so it is this message
    have hFound := List.find?_some hFind
    have hKey : entry.2.key entry.1 = message.key name := beq_iff_eq.mp hFound
    obtain ⟨hEntry, hActive⟩ := List.mem_filter.mp (List.mem_of_find?_eq_some hFind)
    obtain rfl : entry = (name, message) := Catalog.eq_of_key_eq hKeys hEntry hMessage hKey
    have hShipped : message.isActive = true := hActive
    rw [if_pos hShipped]
    rfl

theorem findMessage?_none_eq_none_iff {source : String} :
    catalog.activePart.findMessage? name source none = none ↔ ¬ catalog.HasPlain name source := by
  rw [← first?_active, first?, Option.map_eq_none_iff, List.find?_eq_none]
  constructor
  · rintro hNone ⟨context, hContext, rfl, message, hMessage, hActive, rfl, hComment⟩
    have hEntry : (context.name, message) ∈ catalog.messages :=
      Catalog.mem_messages_iff.mpr ⟨context, hContext, rfl, hMessage⟩
    apply hNone _ (List.mem_filter.mpr ⟨hEntry, hActive⟩)
    simp [Message.key, hComment]
  · rintro hPlain ⟨here, message⟩ hEntry hKey
    obtain ⟨hHere, hActive⟩ := List.mem_filter.mp hEntry
    obtain ⟨context, hContext, rfl, hMessage⟩ := Catalog.mem_messages_iff.mp hHere
    have hSame := beq_iff_eq.mp hKey
    simp only [Message.key, Key.mk.injEq] at hSame
    obtain ⟨hName, hSource, hComment⟩ := hSame
    exact hPlain ⟨context, hContext, hName, message, hMessage, hActive, hSource, hComment⟩

/-- A message that is not shipped leaves its key free: without a comment nothing is found, with one
what has no comment is. -/
theorem decisive?_of_not_isActive (hKeys : catalog.keys.Nodup)
    (hMessage : (name, message) ∈ catalog.messages) (hActive : message.isActive = false) :
    catalog.activePart.decisive? name message.source message.comment = none ↔
      ¬ (message.commentText ≠ "" ∧ catalog.HasPlain name message.source) := by
  rw [Catalog.decisive?, findMessage?_activePart hKeys hMessage, hActive,
    if_neg Bool.false_ne_true]
  show (if message.commentText = "" then none else _) = none ↔ _
  by_cases hComment : message.commentText = ""
  · simp [hComment]
  · rw [if_neg hComment, findMessage?_none_eq_none_iff]
    simp [hComment]

end Finding

/-! ## Answers for a number -/

section Answers

variable {book : Phrasebook} {context source : String} {comment : Option String}

theorem answer_ne_notFound (message : Message) : message.answer ≠ .notFound := by
  rw [Message.answer_eq]
  split
  · simp
  · split <;> simp

theorem lookup_eq_notFound_iff :
    book.lookup context source comment = .notFound ↔ book.find? context source comment = none := by
  unfold lookup
  cases book.find? context source comment with
  | none => simp
  | some message => simp [answer_ne_notFound]

/-- With a number nothing is found just if nothing is found without one. -/
theorem lookupForm_eq_notFound_iff (n : Nat) :
    book.lookupForm context source comment n = .notFound ↔
      book.lookup context source comment = .notFound := by
  unfold lookupForm
  cases book.lookup context source comment with
  | plural forms =>
    dsimp only
    cases book.rule.select forms n <;> simp
  | _ => simp

theorem lookupForm_of_ne_plural {answer : Lookup}
    (h : book.lookup context source comment = answer) (hPlural : ∀ forms, answer ≠ .plural forms)
    (n : Nat) : book.lookupForm context source comment n = answer := by
  unfold lookupForm
  rw [h]
  cases answer with
  | plural forms => exact absurd rfl (hPlural forms)
  | _ => rfl

theorem lookupForm_of_plural {forms : List String} {n : Nat}
    (h : book.lookup context source comment = .plural forms)
    (hIndex : book.rule.formIndex n < forms.length) :
    book.lookupForm context source comment n = .translated forms[book.rule.formIndex n] := by
  unfold lookupForm
  rw [h]
  simp only [PluralRule.select_eq hIndex]

theorem textFor_some {text : String} {n : Nat}
    (h : book.lookupForm context source comment n = .translated text) :
    book.textFor context source comment (some n) = text := by
  simp [textFor, h]

theorem textFor_none_of_translated {text : String}
    (h : book.lookup context source comment = .translated text) :
    book.textFor context source comment none = text := by
  simp [textFor, h]

theorem textFor_none_of_plural {forms : List String}
    (h : book.lookup context source comment = .plural forms)
    (hIndex : book.rule.formIndex 1 < forms.length) :
    book.textFor context source comment none = forms[book.rule.formIndex 1] := by
  simp [textFor, h, PluralRule.select_eq hIndex]

end Answers

/-! ## Resolution -/

section Statuses

variable {catalog : Catalog} {book : Phrasebook} {name : String} {message : Message}

/-- A shipped message decides the query for its own key. -/
theorem lookup_eq_answer (hBook : ofCatalog catalog = .ok book) (hKeys : catalog.keys.Nodup)
    (hMessage : (name, message) ∈ catalog.messages) (hActive : message.isActive = true) :
    book.lookup name message.source message.comment = message.answer := by
  rw [lookup, find?_withRule hBook, Catalog.decisive?, findMessage?_activePart hKeys hMessage,
    if_pos hActive]

theorem lookup_of_singular {only : String} (hBook : ofCatalog catalog = .ok book)
    (hKeys : catalog.keys.Nodup) (hMessage : (name, message) ∈ catalog.messages)
    (hStatus : message.status = .finished) (hTarget : message.target = .singular only) :
    book.lookup name message.source message.comment = .translated only := by
  have hActive : message.isActive = true := by simp [Message.isActive, hStatus]
  rw [lookup_eq_answer hBook hKeys hMessage hActive, Message.answer_eq]
  simp [hStatus, hTarget]

theorem lookup_of_forms {forms : List String} (hBook : ofCatalog catalog = .ok book)
    (hKeys : catalog.keys.Nodup) (hMessage : (name, message) ∈ catalog.messages)
    (hStatus : message.status = .finished) (hTarget : message.target = .plural forms)
    (hSome : forms ≠ []) :
    book.lookup name message.source message.comment = .plural forms := by
  have hActive : message.isActive = true := by simp [Message.isActive, hStatus]
  rw [lookup_eq_answer hBook hKeys hMessage hActive, Message.answer_eq]
  simp [hStatus, hTarget, hSome]

theorem lookup_of_unfinished (hBook : ofCatalog catalog = .ok book)
    (hKeys : catalog.keys.Nodup) (hMessage : (name, message) ∈ catalog.messages)
    (hStatus : message.status = .unfinished) :
    book.lookup name message.source message.comment = .unfinished := by
  have hActive : message.isActive = true := by simp [Message.isActive, hStatus]
  rw [lookup_eq_answer hBook hKeys hMessage hActive, Message.answer_eq]
  simp [hStatus]

theorem lookup_of_not_isActive (hBook : ofCatalog catalog = .ok book)
    (hKeys : catalog.keys.Nodup) (hMessage : (name, message) ∈ catalog.messages)
    (hActive : message.isActive = false) :
    book.lookup name message.source message.comment = .notFound ↔
      ¬ (message.commentText ≠ "" ∧ catalog.HasPlain name message.source) := by
  rw [lookup_eq_notFound_iff, find?_withRule hBook]
  exact decisive?_of_not_isActive hKeys hMessage hActive

/-- Finished forms are as many as the rule of the phrasebook asks for. -/
theorem formIndex_lt_length {forms : List String} (hIssues : catalog.issues = [])
    (hBook : ofCatalog catalog = .ok book) (hMessage : (name, message) ∈ catalog.messages)
    (hStatus : message.status = .finished) (hTarget : message.target = .plural forms) (n : Nat) :
    book.rule.formIndex n < forms.length := by
  obtain ⟨-, -, hRule⟩ := withRule_eq_ok_iff.mp hBook
  rw [Catalog.length_eq_formCount hIssues hMessage hStatus hTarget, hRule]
  exact PluralRule.formIndex_lt _ n

end Statuses

/-- **A catalogue without issues resolves.** Its phrasebook can be built. A finished message with
one text answers with this text, whether or not a number is given; one with forms answers with the
forms and, for a number, with the form at the index of the number, which is always there. What is
not finished says so, and what is not shipped is not found, unless it has a comment and a shipped
message of the same source text has none. -/
theorem lookup_of_issues_eq_nil {catalog : Catalog} (h : catalog.issues = []) :
    ∃ book, ofCatalog catalog = .ok book ∧
      ∀ context ∈ catalog.contexts, ∀ message ∈ context.messages,
        let answer := book.lookup context.name message.source message.comment
        let answerFor := book.lookupForm context.name message.source message.comment
        let text := book.textFor context.name message.source message.comment
        let index := catalog.pluralRule.formIndex
        (message.status = .finished → ∀ only, message.target = .singular only →
          answer = .translated only ∧ (∀ n, answerFor n = .translated only) ∧
            ∀ n, text n = only) ∧
        (message.status = .finished → ∀ forms, message.target = .plural forms →
          answer = .plural forms ∧
            (∀ n, ∃ hIndex : index n < forms.length,
              answerFor n = .translated forms[index n] ∧ text (some n) = forms[index n]) ∧
            ∃ hIndex : index 1 < forms.length, text none = forms[index 1]) ∧
        (message.status = .unfinished →
          answer = .unfinished ∧ ∀ n, answerFor n = .unfinished) ∧
        (message.status = .obsolete ∨ message.status = .vanished →
          let isCovered := message.commentText ≠ "" ∧ catalog.HasPlain context.name message.source
          (answer = .notFound ↔ ¬ isCovered) ∧ ∀ n, answerFor n = .notFound ↔ ¬ isCovered) := by
  obtain ⟨-, hKeys, -, -⟩ := Catalog.issues_eq_nil_iff.mp h
  obtain ⟨book, hBook⟩ := exists_ofCatalog hKeys
  refine ⟨book, hBook, fun context hContext message hMessage => ?_⟩
  have hEntry : (context.name, message) ∈ catalog.messages :=
    Catalog.mem_messages_iff.mpr ⟨context, hContext, rfl, hMessage⟩
  obtain ⟨-, -, hRule⟩ := withRule_eq_ok_iff.mp hBook
  refine ⟨fun hStatus only hTarget => ?_, fun hStatus forms hTarget => ?_, fun hStatus => ?_,
    fun hStatus => ?_⟩
  · have hLookup := lookup_of_singular hBook hKeys hEntry hStatus hTarget
    have hForm := lookupForm_of_ne_plural hLookup (by simp)
    refine ⟨hLookup, hForm, fun n => ?_⟩
    cases n with
    | none => exact textFor_none_of_translated hLookup
    | some n => exact textFor_some (hForm n)
  · have hIndex := formIndex_lt_length h hBook hEntry hStatus hTarget
    -- no rule is without forms, so there is one, and the message does not count as unfinished
    have hSome : forms ≠ [] := List.ne_nil_of_length_pos (Nat.zero_lt_of_lt (hIndex 0))
    have hLookup := lookup_of_forms hBook hKeys hEntry hStatus hTarget hSome
    rw [← hRule]
    refine ⟨hLookup, fun n => ⟨hIndex n, ?_⟩, hIndex 1, textFor_none_of_plural hLookup (hIndex 1)⟩
    have hForm := lookupForm_of_plural hLookup (hIndex n)
    exact ⟨hForm, textFor_some hForm⟩
  · have hLookup := lookup_of_unfinished hBook hKeys hEntry hStatus
    exact ⟨hLookup, lookupForm_of_ne_plural hLookup (by simp)⟩
  · have hActive : message.isActive = false := by
      rcases hStatus with hStatus | hStatus <;> simp [Message.isActive, hStatus]
    have hLookup := lookup_of_not_isActive hBook hKeys hEntry hActive
    exact ⟨hLookup, fun n => (lookupForm_eq_notFound_iff n).trans hLookup⟩

/-- Three forms where the rule asks for three, and an obsolete message whose comment is given up. -/
theorem lookup_of_issues_eq_nil_czech :
    let files := Message.ofForms "%n files" ["%n a", "%n b", "%n c"]
    let plain := Message.ofTexts "Open" "Otevrit"
    let gone := { Message.ofTexts "Open" "" with comment := some "menu", status := .obsolete }
    let catalog : Catalog := {
      language := "cs_CZ"
      contexts := [{ name := "Main", messages := [files, gone, plain] }] }
    catalog.issues = [] ∧ ∃ book, ofCatalog catalog = .ok book ∧
      book.lookupForm "Main" "%n files" none 3 = .translated "%n b" ∧
      book.lookup "Main" "Open" (some "menu") ≠ .notFound := by
  intro files plain gone catalog
  have hIssues : catalog.issues = [] := by decide +kernel
  obtain ⟨book, hBook, hAnswers⟩ := lookup_of_issues_eq_nil hIssues
  have hHere := hAnswers _ List.mem_cons_self
  refine ⟨hIssues, book, hBook, ?_, ?_⟩
  · obtain ⟨-, hForms, -⟩ := hHere files List.mem_cons_self
    obtain ⟨-, hForm, -⟩ := hForms rfl _ rfl
    obtain ⟨_, hThree, _⟩ := hForm 3
    have hIndex : catalog.pluralRule.formIndex 3 = 1 := by decide +kernel
    simp only [hIndex] at hThree
    exact hThree
  · obtain ⟨-, -, -, hGone⟩ := hHere gone (List.mem_cons_of_mem _ List.mem_cons_self)
    obtain ⟨hGone, -⟩ := hGone (.inl rfl)
    intro hNone
    refine hGone.mp hNone ⟨by decide, _, List.mem_cons_self, rfl, plain, ?_, rfl, rfl, rfl⟩
    simp

end Phrasebook

end Linguist
