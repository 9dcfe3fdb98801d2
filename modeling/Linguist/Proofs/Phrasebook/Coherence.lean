import Linguist.Proofs.Resolution

/-!
# Linguist — the queries of a phrasebook agree

A phrasebook can be asked for what it knows, for the form of a number and for a
text to show. All three go by one message, so there are four things they can say
together. In none of them a list of forms is empty, for a message without forms
counts as unfinished; so wherever a form is to be selected there is one to select,
and the source text is shown just if there is no text.

* `lookup_ne_plural_nil` — an empty list of forms is no answer.
* `Coheres`, `coheres_queries` — the four ways in which the queries go together.
* `queries_cohere` — what this says of each query.
-/

namespace Linguist

/-- A message without forms counts as unfinished. -/
theorem Message.answer_ne_plural_nil (message : Message) : message.answer ≠ .plural [] := by
  rw [Message.answer_eq]
  split
  · simp
  · rename_i hForms
    rw [not_or] at hForms
    cases hTarget : message.target with
    | singular text => simp
    | plural forms =>
      intro hNone
      rw [hTarget] at hForms
      exact hForms.2 (congrArg Target.plural (Lookup.plural.inj hNone))

/-- What a rule selects is one of the forms. -/
theorem PluralRule.mem_of_select {rule : PluralRule} {forms : List String} {n : Nat} {form : String}
    (h : rule.select forms n = some form) : form ∈ forms :=
  List.mem_of_getElem? h

namespace Phrasebook

section Queries

variable {book : Phrasebook} {context source : String} {comment : Option String}

theorem lookup_ne_plural_nil : book.lookup context source comment ≠ .plural [] := by
  unfold lookup
  cases book.find? context source comment with
  | none => simp
  | some message => exact message.answer_ne_plural_nil

/-- The text of an answer that has one is shown whether or not a number is given, and the source
text if it has none. -/
theorem textFor_of_ne_plural {answer : Lookup}
    (h : book.lookup context source comment = answer) (hPlural : ∀ forms, answer ≠ .plural forms)
    (n : Option Nat) : book.textFor context source comment n = answer.text?.getD source := by
  have hForm := lookupForm_of_ne_plural h hPlural
  cases answer with
  | plural forms => exact absurd rfl (hPlural forms)
  | _ => cases n <;> simp [textFor, h, hForm, Lookup.text?]

end Queries

/-- What is said about a source text under a rule: what is known, the answer for each number, and
the text that is shown for a number or without one. -/
inductive Coheres (rule : PluralRule) (source : String) :
    Lookup → (Nat → Lookup) → (Option Nat → String) → Prop
  | notFound : Coheres rule source .notFound (fun _ => .notFound) (fun _ => source)
  | unfinished : Coheres rule source .unfinished (fun _ => .unfinished) (fun _ => source)
  | translated (text : String) :
      Coheres rule source (.translated text) (fun _ => .translated text) (fun _ => text)
  /-- there is a form for every number, and without a number it is that of `1` -/
  | plural (forms : List String) (form : Nat → String) :
      forms ≠ [] → (∀ n, rule.select forms n = some (form n)) →
      Coheres rule source (.plural forms) (fun n => .translated (form n))
        (fun n => form (n.getD 1))

/-- Whatever is asked, the queries go one of the four ways. -/
theorem coheres_queries (book : Phrasebook) (context source : String) (comment : Option String) :
    Coheres book.rule source (book.lookup context source comment)
      (book.lookupForm context source comment) (book.textFor context source comment) := by
  cases hLookup : book.lookup context source comment with
  | notFound =>
    rw [funext (lookupForm_of_ne_plural hLookup (by simp)),
      funext (textFor_of_ne_plural hLookup (by simp))]
    exact .notFound
  | unfinished =>
    rw [funext (lookupForm_of_ne_plural hLookup (by simp)),
      funext (textFor_of_ne_plural hLookup (by simp))]
    exact .unfinished
  | translated text =>
    rw [funext (lookupForm_of_ne_plural hLookup (by simp)),
      funext (textFor_of_ne_plural hLookup (by simp))]
    exact .translated text
  | plural forms =>
    have hSome : forms ≠ [] := by
      rintro rfl
      exact lookup_ne_plural_nil hLookup
    -- there is a form at least, so the rule selects one for every number
    have hSelect (n : Nat) : ∃ form, book.rule.select forms n = some form := by
      obtain ⟨_, hForm⟩ := book.rule.select_eq_getElem_min hSome n
      exact ⟨_, hForm⟩
    choose form hForm using hSelect
    have hForms : book.lookupForm context source comment = fun n => .translated (form n) := by
      funext n
      simp [lookupForm, hLookup, hForm]
    have hText : book.textFor context source comment = fun n => form (n.getD 1) := by
      funext n
      cases n <;> simp [textFor, hLookup, hForms, hForm]
    rw [hForms, hText]
    exact .plural forms form hSome hForm

/-- **Coherence.** What is known is never an empty list of forms, and for a number never a list. For
a number nothing is found, or it is unfinished, just if that is so without one; an only text answers
every number, and of forms the rule selects one for every number, so that no text is missing there.
The source text is shown if nothing is found or it is unfinished, and the text that was found in
every other case. Without a number, `1` is taken. -/
theorem queries_cohere (book : Phrasebook) (context source : String) (comment : Option String) :
    let answer := book.lookup context source comment
    let answerFor := book.lookupForm context source comment
    let text := book.textFor context source comment
    let isMissing := answer = .notFound ∨ answer = .unfinished
    answer ≠ .plural [] ∧
      (∀ n forms, answerFor n ≠ .plural forms) ∧
      (∀ n, (answerFor n = .notFound ↔ answer = .notFound) ∧
        (answerFor n = .unfinished ↔ answer = .unfinished)) ∧
      (∀ only, answer = .translated only → ∀ n, answerFor n = .translated only) ∧
      (∀ forms, answer = .plural forms → ∀ n, ∃ form ∈ forms,
        book.rule.select forms n = some form ∧ answerFor n = .translated form) ∧
      (∀ n, (isMissing → text (some n) = source) ∧
        (¬ isMissing → answerFor n = .translated (text (some n)))) ∧
      text none = text (some 1) := by
  intro answer answerFor text isMissing
  have hCoheres : Coheres book.rule source answer answerFor text :=
    coheres_queries book context source comment
  have hNil : answer ≠ .plural [] := lookup_ne_plural_nil
  refine ⟨hNil, ?_⟩
  clear_value answer answerFor text
  cases hCoheres with
  | notFound => simp [isMissing]
  | unfinished => simp [isMissing]
  | translated only => simp [isMissing]
  | plural forms form _ hForm =>
    refine ⟨by simp, by simp, by simp, fun forms' hForms n => ?_, by simp [isMissing], rfl⟩
    obtain rfl := Lookup.plural.inj hForms
    exact ⟨form n, PluralRule.mem_of_select (hForm n), hForm n, rfl⟩

/-- Two forms where the rule asks for three, and a text that is empty on purpose. -/
theorem queries_cohere_czech :
    let files := Message.ofForms "%n files" ["%n a", "%n b"]
    let blank := Message.ofTexts "A4" ""
    let catalog : Catalog := {
      language := "cs_CZ", contexts := [{ name := "Main", messages := [files, blank] }] }
    ∃ book, ofCatalog catalog = .ok book ∧
      book.lookupForm "Main" "%n files" none 5 = .translated "%n b" ∧
      book.textFor "Main" "%n files" none none = "%n a" ∧
      book.textFor "Main" "A4" none (some 5) = "" := by
  intro files blank catalog
  have hKeys : catalog.keys.Nodup := by decide
  obtain ⟨book, hBook⟩ := exists_ofCatalog hKeys
  obtain ⟨-, -, hRule⟩ := withRule_eq_ok_iff.mp hBook
  have hCzech : book.rule = .czech := hRule.trans (by decide +kernel)
  have hFilesHeld : ("Main", files) ∈ catalog.messages := by decide
  have hBlankHeld : ("Main", blank) ∈ catalog.messages := by decide
  have hFiles : book.lookup "Main" "%n files" none = .plural ["%n a", "%n b"] :=
    (lookup_eq_answer hBook hKeys hFilesHeld rfl).trans rfl
  have hBlank : book.lookup "Main" "A4" none = .translated "" :=
    (lookup_eq_answer hBook hKeys hBlankHeld rfl).trans rfl
  obtain ⟨-, -, -, -, hForms, hText, hOne⟩ := queries_cohere book "Main" "%n files" none
  obtain ⟨-, -, -, hOnly, -, hBlankText, -⟩ := queries_cohere book "Main" "A4" none
  rw [hCzech] at hForms
  refine ⟨book, hBook, ?_, ?_, ?_⟩
  · obtain ⟨form, -, hForm, hFive⟩ := hForms _ hFiles 5
    obtain rfl : "%n b" = form := Option.some.inj hForm
    exact hFive
  · obtain ⟨form, -, hForm, hFirst⟩ := hForms _ hFiles 1
    obtain rfl : "%n a" = form := Option.some.inj hForm
    have hShown := (hText 1).2 (by simp [hFiles])
    rw [hOne]
    exact (Lookup.translated.inj (hFirst.symm.trans hShown)).symm
  · have hShown := (hBlankText 5).2 (by simp [hBlank])
    exact (Lookup.translated.inj ((hOnly _ hBlank 5).symm.trans hShown)).symm

end Phrasebook

end Linguist
