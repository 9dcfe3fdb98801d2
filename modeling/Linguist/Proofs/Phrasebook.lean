import Linguist.Phrasebook

/-!
# Linguist — a phrasebook answers like a scan of the catalogue

A phrasebook is built once and asked often; what it answers can be told from the
catalogue alone. Its index leads over three steps to a position, but it is one
table by key: a message that is entered gets a position of its own, and no
position that was there before leads elsewhere. So under each key stands the
message that a scan of the active messages meets first, over all contexts of the
name, and nothing else, and a query is decided by that scan, with the comment and
then without it.

* `Catalog.activePart` — a catalogue without the messages that are not shipped.
* `Catalog.decisive?` — the message that decides a query.
* `Entries.at?_add`, `Entries.find?_eq` — the index is one table by key.
* `at?_of_foldlM_enter`, `messages_of_foldlM_enter` — the entries after some messages.
* `lookup_eq_scan` — the answers of a phrasebook.
-/

namespace Linguist

/-! ## Scanning a catalogue -/

/-- A catalogue without the messages that a program would not be shipped with. -/
def Catalog.activePart (catalog : Catalog) : Catalog :=
  { catalog with
    contexts := catalog.contexts.map fun context =>
      { context with messages := context.messages.filter Message.isActive } }

/-- The first message for a key, or else the first one for the key without its comment. -/
def Catalog.decisive? (catalog : Catalog) (context source : String) (comment : Option String) :
    Option Message :=
  match catalog.findMessage? context source comment with
  | some message => some message
  | none =>
    if comment.getD "" = "" then none else catalog.findMessage? context source none

/-- What a message answers, told by its status and its target. -/
theorem Message.answer_eq (message : Message) :
    message.answer = if message.status = .unfinished ∨ message.target = .plural [] then .unfinished
      else match message.target with
        | .singular text => .translated text
        | .plural forms => .plural forms := by
  unfold answer
  cases message.status <;> rcases message.target with text | (_ | ⟨form, forms⟩) <;> simp

/-! ## The index as one table -/

namespace Entries

variable {entries next : Entries} {entry : String × Message} {key : Key}

/-- The message under a key. -/
def at? (entries : Entries) (key : Key) : Option Message :=
  (position? (entries.index.comments key.context key.source) key.comment).bind
    (entries.messages[·]?)

@[simp] theorem at?_empty (key : Key) : empty.at? key = none := by
  rw [at?, empty, Index.comments_empty]
  rfl

theorem lt_size_of_position? {context source comment : String} {position : Nat}
    (h : position? (entries.index.comments context source) comment = some position) :
    position < entries.messages.size := by
  obtain ⟨found, hFound, rfl⟩ := Option.map_eq_some_iff.mp h
  exact entries.inBounds context source found (List.mem_of_find?_eq_some hFound)

/-- Every position leads to a message, so nothing is missed but what has no position. -/
theorem at?_eq_none_iff :
    entries.at? key = none ↔
      position? (entries.index.comments key.context key.source) key.comment = none := by
  unfold at?
  cases hPosition : position? (entries.index.comments key.context key.source) key.comment with
  | none => simp
  | some position =>
    simp [Nat.not_le_of_lt (lt_size_of_position? hPosition)]

/-- What is found is the message under the key with the comment, or else the one under the key
without. -/
theorem find?_eq (entries : Entries) (context source comment : String) :
    entries.find? context source comment
      = (entries.at? ⟨context, source, comment⟩).or
          (if comment.isEmpty then none else entries.at? ⟨context, source, ""⟩) := by
  have hFound := @at?_eq_none_iff entries ⟨context, source, comment⟩
  unfold find? at? at *
  dsimp only at *
  cases hPosition : position? (entries.index.comments context source) comment with
  | none =>
    cases comment.isEmpty <;> rfl
  | some position =>
    -- a position leads to a message, so nothing else is looked for behind it
    rw [hPosition, Option.bind_some] at hFound
    obtain ⟨message, hMessage⟩ := Option.ne_none_iff_exists'.mp
      fun hNone => Option.some_ne_none position (hFound.mp hNone)
    rw [Option.bind_some, hMessage]
    exact hMessage

/-- What is entered gets the position behind all others; the positions of the others stay. -/
theorem position?_add (entries : Entries) (entry : String × Message) (key : Key) :
    position? ((entries.add entry).index.comments key.context key.source) key.comment
      = (position? (entries.index.comments key.context key.source) key.comment).or
          (if entry.2.key entry.1 = key then some entries.messages.size else none) := by
  obtain ⟨context, source, comment⟩ := key
  have hKey : entry.2.key entry.1 = ⟨context, source, comment⟩ ↔
      (entry.1 = context ∧ entry.2.source = source) ∧ entry.2.commentText = comment := by
    rw [Message.key, Key.mk.injEq, and_assoc]
  simp only [add, Index.comments_add, hKey]
  by_cases hPlace : entry.1 = context ∧ entry.2.source = source
  · obtain ⟨rfl, rfl⟩ := hPlace
    rw [if_pos ⟨rfl, rfl⟩, position?, List.find?_append, Option.map_or]
    refine congrArg _ ?_
    by_cases hComment : entry.2.commentText = comment
    · simp [hComment]
    · simp [hComment]
  · rw [if_neg hPlace, if_neg fun h => hPlace h.1, Option.or_none]

/-- A message that was entered stands under its key unless another one does; what stood under a key
before stands there still. -/
theorem at?_add (entries : Entries) (entry : String × Message) (key : Key) :
    (entries.add entry).at? key
      = (entries.at? key).or (if entry.2.key entry.1 = key then some entry.2 else none) := by
  rw [at?, position?_add]
  cases hPosition : position? (entries.index.comments key.context key.source) key.comment with
  | some position =>
    obtain ⟨message, hMessage⟩ := Option.ne_none_iff_exists'.mp
      (mt at?_eq_none_iff.mp (by rw [hPosition]; exact Option.some_ne_none position))
    have hThere : entries.messages[position]? = some message := by
      rw [← hMessage, at?, hPosition]
      rfl
    rw [hMessage, Option.some_or, Option.some_or, Option.bind_some]
    show (entries.messages.push entry.2)[position]? = _
    rw [Array.getElem?_push, if_neg (Nat.ne_of_lt (lt_size_of_position? hPosition)), hThere]
  | none =>
    rw [at?_eq_none_iff.mpr hPosition, Option.none_or, Option.none_or]
    by_cases hKey : entry.2.key entry.1 = key
    · rw [if_pos hKey, if_pos hKey]
      exact Array.getElem?_push_size
    · rw [if_neg hKey, if_neg hKey]
      rfl

/-- A message is entered under its key if the key is free. -/
theorem enter_eq_ok_iff :
    enter entries entry = .ok next ↔
      entries.at? (entry.2.key entry.1) = none ∧ next = entries.add entry := by
  have hTaken : entries.at? (entry.2.key entry.1) = none ↔
      (entries.index.comments entry.1 entry.2.source).any (·.1 == entry.2.commentText) = false := by
    rw [at?_eq_none_iff, position?, Option.map_eq_none_iff, List.find?_eq_none]
    simp [Message.key]
  unfold enter
  dsimp only
  rw [hTaken]
  split
  · rename_i hAny
    simp [hAny]
  · rename_i hAny
    simp [hAny, eq_comm]

/-- A key that is taken is refused. -/
theorem enter_eq_error (h : entries.at? (entry.2.key entry.1) ≠ none) :
    enter entries entry = .error (entry.2.key entry.1) := by
  unfold enter
  dsimp only
  split
  · rfl
  · rename_i hFree
    exact absurd (enter_eq_ok_iff.mp (if_neg hFree)).1 h

end Entries

namespace Phrasebook

open Entries (enter enter_eq_ok_iff)

/-! ## Entering messages -/

/-- The first of some messages under a key. -/
def first? (key : Key) (active : List (String × Message)) : Option Message :=
  (active.find? fun entry => entry.2.key entry.1 == key).map (·.2)

theorem first?_cons_of_key {key : Key} {entry : String × Message}
    (h : entry.2.key entry.1 = key) (active : List (String × Message)) :
    first? key (entry :: active) = some entry.2 := by
  simp [first?, h]

theorem first?_cons_of_ne {key : Key} {entry : String × Message}
    (h : entry.2.key entry.1 ≠ key) (active : List (String × Message)) :
    first? key (entry :: active) = first? key active := by
  simp [first?, h]

/-- The first of some messages is entered, then the others are. -/
theorem foldlM_enter_cons {entry : String × Message} {active : List (String × Message)}
    {entries last : Entries} (h : (entry :: active).foldlM enter entries = .ok last) :
    entries.at? (entry.2.key entry.1) = none ∧
      active.foldlM enter (entries.add entry) = .ok last := by
  rw [List.foldlM_cons] at h
  cases hEnter : enter entries entry with
  | error key =>
    rw [hEnter] at h
    exact absurd h (by simp [bind, Except.bind])
  | ok next =>
    rw [hEnter] at h
    obtain ⟨hFree, rfl⟩ := enter_eq_ok_iff.mp hEnter
    exact ⟨hFree, h⟩

/-- Under a key stands what stood there before, or else the first message of the key. -/
theorem at?_of_foldlM_enter {active : List (String × Message)} {entries last : Entries}
    (h : active.foldlM enter entries = .ok last) (key : Key) :
    last.at? key = (entries.at? key).or (first? key active) := by
  -- what is there at first is any table, for the first message is there when the second one comes
  induction active generalizing entries with
  | nil =>
    obtain rfl : entries = last := Except.ok.inj h
    exact Option.or_none.symm
  | cons entry active ih =>
    obtain ⟨-, hRest⟩ := foldlM_enter_cons h
    rw [ih hRest, Entries.at?_add, Option.or_assoc]
    by_cases hKey : entry.2.key entry.1 = key
    · rw [if_pos hKey, first?_cons_of_key hKey, Option.some_or]
    · rw [if_neg hKey, first?_cons_of_ne hKey, Option.none_or]

/-- The messages that are entered stand in a row behind those that were there. -/
theorem messages_of_foldlM_enter {active : List (String × Message)} {entries last : Entries}
    (h : active.foldlM enter entries = .ok last) :
    last.messages.toList = entries.messages.toList ++ active.map Prod.snd := by
  induction active generalizing entries with
  | nil =>
    obtain rfl : entries = last := Except.ok.inj h
    exact (List.append_nil _).symm
  | cons entry active ih =>
    obtain ⟨-, hRest⟩ := foldlM_enter_cons h
    have hPush : (entries.add entry).messages.toList = entries.messages.toList ++ [entry.2] :=
      Array.toList_push
    rw [ih hRest, hPush, List.append_assoc]
    rfl

/-! ## Scanning contexts -/

/-- The messages of a catalogue that are entered into its phrasebook. -/
def active (catalog : Catalog) : List (String × Message) :=
  catalog.messages.filter fun (_, message) => message.isActive

theorem first?_append (key : Key) (a b : List (String × Message)) :
    first? key (a ++ b) = (first? key a).or (first? key b) := by
  rw [first?, List.find?_append, Option.map_or]
  rfl

/-- A message has a key just if its context has the name and it answers the rest. -/
theorem key_beq (message : Message) (name context source : String) (comment : Option String) :
    (message.key name == ⟨context, source, comment.getD ""⟩)
      = (name == context && message.answers source comment) := by
  rw [Bool.eq_iff_iff]
  simp [Message.key, Message.answers]

/-- Within one context, the first message under a key is the first that answers. -/
theorem first?_context (here : Context) (context source : String) (comment : Option String) :
    first? ⟨context, source, comment.getD ""⟩
        ((here.messages.map fun message => (here.name, message)).filter (·.2.isActive))
      = if here.name = context then
          (here.messages.filter Message.isActive).find? (Message.answers source comment)
        else none := by
  have hActive : (fun entry : String × Message => entry.2.isActive)
      ∘ (fun message => (here.name, message)) = Message.isActive := rfl
  rw [first?, List.filter_map, hActive, List.find?_map, Option.map_map]
  simp only [Function.comp_def, key_beq]
  split
  · rename_i hName
    simp [hName]
  · rename_i hName
    simp [hName]

/-- The first message under a key is the one that a scan of the contexts finds. -/
theorem first?_active (catalog : Catalog) (context source : String) (comment : Option String) :
    first? ⟨context, source, comment.getD ""⟩ (active catalog)
      = catalog.activePart.findMessage? context source comment := by
  unfold active Catalog.messages Catalog.activePart Catalog.findMessage?
  induction catalog.contexts with
  | nil => rfl
  | cons here others ih =>
    rw [List.flatMap_cons, List.filter_append, first?_append, ih, first?_context, List.map_cons]
    -- a context of another name has no message under the key, and the scan leaves it out
    by_cases hName : here.name = context
    · rw [if_pos hName, List.filter_cons_of_pos (by simp [hName]), List.flatMap_cons,
        List.find?_append]
    · rw [if_neg hName, List.filter_cons_of_neg (by simp [hName]), Option.none_or]

/-! ## Answers -/

section Answers

variable {catalog : Catalog} {rule : PluralRule} {book : Phrasebook}

/-- The entries of a phrasebook are the active messages, entered one after the other. -/
theorem withRule_eq_ok_iff :
    withRule catalog rule = .ok book ↔ (active catalog).foldlM enter .empty = .ok book.entries ∧
      book.language = catalog.language ∧ book.rule = rule := by
  have hBook : withRule catalog rule = (active catalog).foldlM enter .empty >>= fun entries =>
      .ok { language := catalog.language, rule, entries } := rfl
  rw [hBook]
  obtain ⟨language, rule', entries'⟩ := book
  cases (active catalog).foldlM enter .empty with
  | error key => simp [bind, Except.bind]
  | ok entries =>
    constructor
    · rintro ⟨⟩
      exact ⟨rfl, rfl, rfl⟩
    · rintro ⟨⟨⟩, rfl, rfl⟩
      rfl

/-- What a phrasebook holds under a key is what the scan finds. -/
theorem at?_withRule (h : withRule catalog rule = .ok book) (context source : String)
    (comment : Option String) :
    book.entries.at? ⟨context, source, comment.getD ""⟩
      = catalog.activePart.findMessage? context source comment := by
  rw [at?_of_foldlM_enter (withRule_eq_ok_iff.mp h).1, Entries.at?_empty, Option.none_or,
    first?_active]

/-- The message that a phrasebook finds is the one that decides the query. -/
theorem find?_withRule (h : withRule catalog rule = .ok book) (context source : String)
    (comment : Option String) :
    book.find? context source comment
      = catalog.activePart.decisive? context source comment := by
  -- a query without a comment and one with the empty comment have the same key
  have hPlain : book.entries.at? ⟨context, source, ""⟩
      = catalog.activePart.findMessage? context source none :=
    at?_withRule h context source none
  rw [find?, Entries.find?_eq, at?_withRule h, hPlain]
  unfold Catalog.decisive?
  cases catalog.activePart.findMessage? context source comment with
  | some message => rfl
  | none => simp only [String.isEmpty_iff, Option.none_or]

/-- **A phrasebook answers like a scan.** Every query is decided by a scan of the active messages,
with the comment and then without it, and the phrasebook holds just these messages. -/
theorem lookup_eq_scan (h : withRule catalog rule = .ok book) :
    (∀ context source comment, book.lookup context source comment =
      match catalog.activePart.decisive? context source comment with
      | none => .notFound
      | some message =>
        if message.status = .unfinished ∨ message.target = .plural [] then .unfinished
        else match message.target with
          | .singular text => .translated text
          | .plural forms => .plural forms) ∧
      book.size = catalog.messages.countP fun (_, message) => message.isActive := by
  constructor
  · intro context source comment
    unfold lookup
    rw [find?_withRule h]
    cases catalog.activePart.decisive? context source comment with
    | none => rfl
    | some message => exact message.answer_eq
  · have hMessages := messages_of_foldlM_enter (withRule_eq_ok_iff.mp h).1
    rw [size, ← Array.length_toList, hMessages, List.countP_eq_length_filter, active]
    simp [Entries.empty]

end Answers

/-- Two contexts of one name, the first of which holds an obsolete message: a comment that addresses
nothing is given up. -/
theorem lookup_eq_scan_fallback :
    let gone : Message := { Message.ofTexts "s" "r" with status := .obsolete }
    let kept := Message.ofTexts "s" "t"
    let catalog : Catalog := {
      contexts := [{ name := "a", messages := [gone] }, { name := "a", messages := [kept] }] }
    ∃ book, withRule catalog .oneOther = .ok book ∧
      book.lookup "a" "s" (some "c") = .translated "t" ∧ book.size = 1 := by
  intro gone kept catalog
  -- the obsolete message is gone, so the one in the second context is the first
  have hActive : active catalog = [("a", kept)] := rfl
  have hEnter : enter .empty ("a", kept) = .ok (Entries.empty.add ("a", kept)) :=
    enter_eq_ok_iff.mpr ⟨Entries.at?_empty _, rfl⟩
  have hBook : withRule catalog .oneOther = .ok ⟨"", .oneOther, Entries.empty.add ("a", kept)⟩ := by
    rw [withRule_eq_ok_iff, hActive, List.foldlM_cons, hEnter]
    exact ⟨rfl, rfl, rfl⟩
  obtain ⟨hLookup, hSize⟩ := lookup_eq_scan hBook
  refine ⟨_, hBook, ?_, hSize⟩
  rw [hLookup]
  rfl

end Phrasebook

end Linguist
