import Linguist.Proofs.Catalog.Duplicates
import Mathlib.Logic.Relation

/-!
# Linguist — what the answers of a phrasebook depend on

Of a message that is shipped, a phrasebook uses its key, its status and its
target, and of any other message nothing. Since no two of the messages it holds
have the same key, their order does not matter either: catalogues with the same
records have phrasebooks that answer alike, or none of them has one. Moving
messages and contexts about, splitting a context, dropping what is not shipped
and changing remarks leave the records as they are.

* `records` — what is used of a catalogue.
* `find?_key_eq_some_iff` — what is found under a key, if all keys differ.
* `Edit` — changes to a catalogue that keep its records.
* `withRule_answersAlike` — catalogues with the same records.
-/

namespace Linguist.Phrasebook

/-! ## Records -/

/-- What a phrasebook uses of a message. -/
structure Record where
  key : Key
  status : Status
  target : Target
  deriving DecidableEq

namespace Record

/-- The record of a message in a context. -/
def ofMessage (name : String) (message : Message) : Record :=
  ⟨message.key name, message.status, message.target⟩

/-- What a record answers. -/
def answer (record : Record) : Lookup :=
  if record.status = .unfinished ∨ record.target = .plural [] then .unfinished
  else match record.target with
    | .singular text => .translated text
    | .plural forms => .plural forms

theorem answer_ofMessage (name : String) (message : Message) :
    (ofMessage name message).answer = message.answer :=
  message.answer_eq.symm

/-- The records of the shipped messages in some contexts. -/
def ofContexts (contexts : List Context) : List Record :=
  contexts.flatMap fun context =>
    (context.messages.filter Message.isActive).map (ofMessage context.name)

theorem ofContexts_cons (context : Context) (contexts : List Context) :
    ofContexts (context :: contexts)
      = (context.messages.filter Message.isActive).map (ofMessage context.name)
        ++ ofContexts contexts :=
  List.flatMap_cons

end Record

/-- The records of the shipped messages of a catalogue. -/
def records (catalog : Catalog) : List Record :=
  (active catalog).map fun (name, message) => .ofMessage name message

theorem records_eq (catalog : Catalog) :
    records catalog = Record.ofContexts catalog.contexts := by
  unfold records active Catalog.messages Record.ofContexts
  rw [List.filter_flatMap, List.map_flatMap]
  congr 1
  funext context
  rw [List.filter_map, List.map_map]
  rfl

theorem keys_activePart (catalog : Catalog) :
    catalog.activePart.keys = (records catalog).map Record.key := by
  rw [Catalog.keys, Catalog.messages_activePart, records, List.map_map]
  rfl

/-- Where all keys differ, what is found under a key is the one record that has it. -/
theorem find?_key_eq_some_iff {found : List Record} (hKeys : (found.map Record.key).Nodup) (key : Key)
    (record : Record) :
    found.find? (·.key == key) = some record ↔ record ∈ found ∧ record.key = key := by
  constructor
  · intro h
    have hKey := List.find?_some h
    exact ⟨List.mem_of_find?_eq_some h, beq_iff_eq.mp hKey⟩
  · rintro ⟨hRecord, hKey⟩
    cases hFind : found.find? (·.key == key) with
    | none => exact absurd (beq_iff_eq.mpr hKey) (List.find?_eq_none.mp hFind record hRecord)
    | some first =>
      have hFirst := List.find?_some hFind
      rw [List.inj_on_of_nodup_map hKeys (List.mem_of_find?_eq_some hFind) hRecord
        ((beq_iff_eq.mp hFirst).trans hKey.symm)]

/-- So it does not depend on the order of the records. -/
theorem find?_key_eq_of_perm {a b : List Record} (h : a.Perm b) (hKeys : (a.map Record.key).Nodup)
    (key : Key) : a.find? (·.key == key) = b.find? (·.key == key) := by
  have hKeys' : (b.map Record.key).Nodup := (h.map Record.key).nodup_iff.mp hKeys
  refine Option.ext fun record => ?_
  rw [find?_key_eq_some_iff hKeys, find?_key_eq_some_iff hKeys', h.mem_iff]

/-! ## Changes that keep the records -/

/-- One change to the contexts of a catalogue. Contexts can be put in any order, so that each of
the other changes concerns the first one, or its first message. -/
inductive Edit : List Context → List Context → Prop
  | reorder {a b : List Context} : a.Perm b → Edit a b
  /-- the later messages of a context form another one of its name -/
  | split (here later : Context) (rest : List Context) : later.name = here.name →
      Edit ({ here with messages := here.messages ++ later.messages } :: rest)
        (here :: later :: rest)
  | reorderMessages (here : Context) {messages : List Message} (rest : List Context) :
      here.messages.Perm messages → Edit (here :: rest) ({ here with messages } :: rest)
  /-- a message that is not shipped is dropped -/
  | drop (here : Context) (message : Message) (rest : List Context) : message.isActive = false →
      Edit ({ here with messages := message :: here.messages } :: rest) (here :: rest)
  /-- whatever else a message says: its identifier, places, remarks, older texts, and whether it
  depends on a number -/
  | change (here : Context) {message message' : Message} (rest : List Context) :
      message'.source = message.source → message'.commentText = message.commentText →
      message'.status = message.status → message'.target = message.target →
      Edit ({ here with messages := message :: here.messages } :: rest)
        ({ here with messages := message' :: here.messages } :: rest)

theorem Edit.records_perm {a b : List Context} (h : Edit a b) :
    (Record.ofContexts a).Perm (Record.ofContexts b) := by
  cases h with
  | reorder h => exact h.flatMap_right _
  | split here later rest hName =>
    rw [Record.ofContexts_cons, Record.ofContexts_cons, Record.ofContexts_cons, hName]
    simp
  | reorderMessages here rest h =>
    rw [Record.ofContexts_cons, Record.ofContexts_cons]
    exact ((h.filter _).map _).append_right _
  | drop here message rest hActive =>
    rw [Record.ofContexts_cons, Record.ofContexts_cons, List.filter_cons_of_neg (by simp [hActive])]
  | @change here message message' rest hSource hComment hStatus hTarget =>
    have hActive : message'.isActive = message.isActive := by simp [Message.isActive, hStatus]
    have hRecord : Record.ofMessage here.name message' = .ofMessage here.name message := by
      simp [Record.ofMessage, Message.key, hSource, hComment, hStatus, hTarget]
    rw [Record.ofContexts_cons, Record.ofContexts_cons, List.filter_cons, List.filter_cons, hActive]
    split
    · rw [List.map_cons, List.map_cons, hRecord]
    · exact .refl _

/-- Changes in a row, each made or undone, keep the records. -/
theorem records_perm_of_edits {a b : List Context} (h : Relation.EqvGen Edit a b) :
    (Record.ofContexts a).Perm (Record.ofContexts b) := by
  induction h with
  | rel _ _ hEdit => exact hEdit.records_perm
  | refl => exact .refl _
  | symm _ _ _ ih => exact ih.symm
  | trans _ _ _ _ _ ih ih' => exact ih.trans ih'

/-! ## Phrasebooks -/

/-- Whether two catalogues have phrasebooks that give the same answers, or have none. -/
def AnswersAlike : Except Key Phrasebook → Except Key Phrasebook → Prop
  | .ok book, .ok book' => ∀ context source comment,
      book.lookup context source comment = book'.lookup context source comment ∧
        (∀ n, book.lookupForm context source comment n
          = book'.lookupForm context source comment n) ∧
        ∀ n, book.textFor context source comment n = book'.textFor context source comment n
  | .error _, .error _ => True
  | _, _ => False

/-- There is a phrasebook just if the keys of the records differ. -/
theorem exists_withRule_iff (catalog : Catalog) (rule : PluralRule) :
    (∃ book, withRule catalog rule = .ok book) ↔ ((records catalog).map Record.key).Nodup := by
  rw [← keys_activePart, ← Catalog.duplicateKeys_eq_nil_iff, ← List.head?_eq_none_iff]
  cases hBook : withRule catalog rule with
  | ok book =>
    refine ⟨fun _ => ?_, fun _ => ⟨book, rfl⟩⟩
    rw [Option.eq_none_iff_forall_ne_some]
    intro key hKey
    rw [withRule_eq_error_iff.mpr hKey] at hBook
    cases hBook
  | error key => simp [withRule_eq_error_iff.mp hBook]

section Answers

variable {catalog : Catalog} {rule : PluralRule} {book book' : Phrasebook}

/-- What is answered under a key is told by the first record with this key. -/
theorem map_answer_at? (h : withRule catalog rule = .ok book) (key : Key) :
    (book.entries.at? key).map Message.answer
      = ((records catalog).find? (·.key == key)).map Record.answer := by
  have hAnswer : Record.answer ∘ (fun (entry : String × Message) => .ofMessage entry.1 entry.2)
      = Message.answer ∘ Prod.snd :=
    funext fun entry => Record.answer_ofMessage entry.1 entry.2
  rw [at?_of_foldlM_enter (withRule_eq_ok_iff.mp h).1, Entries.at?_empty, Option.none_or, first?,
    records, List.find?_map, Option.map_map, Option.map_map, hAnswer]
  rfl

/-- An answer is what is answered under the key, or else under the key without the comment. -/
theorem lookup_eq_getD (book : Phrasebook) (context source : String) (comment : Option String) :
    book.lookup context source comment
      = (((book.entries.at? ⟨context, source, comment.getD ""⟩).map Message.answer).or
          (if (comment.getD "").isEmpty then none
          else (book.entries.at? ⟨context, source, ""⟩).map Message.answer)).getD .notFound := by
  unfold lookup
  rw [find?, Entries.find?_eq]
  cases book.entries.at? ⟨context, source, comment.getD ""⟩ with
  | some message => rfl
  | none =>
    by_cases hPlain : (comment.getD "").isEmpty = true
    · rw [if_pos hPlain, if_pos hPlain]
      rfl
    · rw [if_neg hPlain, if_neg hPlain]
      cases book.entries.at? ⟨context, source, ""⟩ <;> rfl

/-- Phrasebooks that answer the same under every key give the same answers. -/
theorem answersAlike_of_entries (hRule : book.rule = book'.rule)
    (h : ∀ key : Key, (book.entries.at? key).map Message.answer
      = (book'.entries.at? key).map Message.answer) : AnswersAlike (.ok book) (.ok book') := by
  intro context source comment
  have hLookup : book.lookup context source comment = book'.lookup context source comment := by
    rw [lookup_eq_getD, lookup_eq_getD, h, h]
  have hForm : ∀ n, book.lookupForm context source comment n
      = book'.lookupForm context source comment n := by
    intro n
    rw [lookupForm, lookupForm, hLookup, hRule]
  refine ⟨hLookup, hForm, fun n => ?_⟩
  cases n with
  | none => rw [textFor, textFor, hLookup, hRule]
  | some n => simp only [textFor, hForm, hRule]

end Answers

theorem answersAlike_of_records_perm {a b : Catalog} (h : (records a).Perm (records b))
    (rule : PluralRule) : AnswersAlike (withRule a rule) (withRule b rule) := by
  have hKeys : ((records a).map Record.key).Nodup ↔ ((records b).map Record.key).Nodup :=
    (h.map Record.key).nodup_iff
  -- there are both phrasebooks or none, for the keys of the records are the same
  have hBoth : (∃ book, withRule a rule = .ok book) ↔ ∃ book, withRule b rule = .ok book := by
    rw [exists_withRule_iff, exists_withRule_iff, hKeys]
  cases ha : withRule a rule with
  | ok book =>
    obtain ⟨book', hb⟩ := hBoth.mp ⟨book, ha⟩
    rw [hb]
    refine answersAlike_of_entries ?_ fun key => ?_
    · rw [(withRule_eq_ok_iff.mp ha).2.2, (withRule_eq_ok_iff.mp hb).2.2]
    · rw [map_answer_at? ha, map_answer_at? hb,
        find?_key_eq_of_perm h ((exists_withRule_iff a rule).mp ⟨book, ha⟩)]
  | error key =>
    cases hb : withRule b rule with
    | ok book' =>
      obtain ⟨book, hBook⟩ := hBoth.mpr ⟨book', hb⟩
      cases ha.symm.trans hBook
    | error key' => exact .intro

/-- **Independence.** Catalogues with the same records, in whatever order, have phrasebooks that
answer alike, or none of them has one. So do catalogues that come from each other by changes that
concern no record. -/
theorem withRule_answersAlike (a b : Catalog) (rule : PluralRule) :
    ((records a).Perm (records b) → AnswersAlike (withRule a rule) (withRule b rule)) ∧
      (Relation.EqvGen Edit a.contexts b.contexts →
        AnswersAlike (withRule a rule) (withRule b rule)) :=
  ⟨fun h => answersAlike_of_records_perm h rule,
    fun h => answersAlike_of_records_perm
      (by rw [records_eq, records_eq]; exact records_perm_of_edits h) rule⟩

/-- Two contexts of one name, with a message that is not shipped, and the same put together the
other way round, where a comment that was missing is empty. -/
theorem withRule_answersAlike_merged :
    let menu := { Message.ofTexts "Open" "Otevrit" with comment := some "menu" }
    let files := Message.ofForms "%n files" ["%n a", "%n b", "%n c"]
    let gone := { Message.ofTexts "Open" "" with status := .obsolete }
    let apart : Catalog := {
      contexts := [
        { name := "Main", messages := [menu, gone] }, { name := "Main", messages := [files] }] }
    let together : Catalog := {
      contexts := [
        { name := "Main", messages := [{ files with comment := some "", id := "f" }, menu] }] }
    ∃ book book', withRule apart .czech = .ok book ∧ withRule together .czech = .ok book' ∧
      ∀ source comment n,
        book.lookupForm "Main" source comment n = book'.lookupForm "Main" source comment n := by
  intro menu files gone apart together
  obtain ⟨hRecords, -⟩ := withRule_answersAlike apart together .czech
  have hAlike := hRecords (by decide)
  obtain ⟨book, hBook⟩ := (exists_withRule_iff apart .czech).mpr (by decide)
  obtain ⟨book', hBook'⟩ := (exists_withRule_iff together .czech).mpr (by decide)
  rw [hBook, hBook'] at hAlike
  exact ⟨book, book', hBook, hBook', fun source comment n => (hAlike "Main" source comment).2.1 n⟩

end Linguist.Phrasebook
