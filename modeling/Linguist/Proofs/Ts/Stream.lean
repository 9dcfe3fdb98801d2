import Linguist.Proofs.Notice
import Linguist.Proofs.Text.Utf8
import Linguist.Proofs.Ts.Forest
import Linguist.Proofs.Xml.Nesting

/-!
# Linguist — taking events comes to reading a forest

The reader takes the events of a document one after the other, and every loop goes
on where the one inside it has stopped. A forest has the content of an element apart
from what follows. The two agree, because a loop stops just behind the end tag of its
element: what it leaves are the events behind the level it was started in, and they
tell the level around. So a loop comes to what is read of its level, with the same
notices and the same fault, and goes on with the next one.

* `Leaves` — a reading that takes events comes to another one and leaves some events.
* `map_readToEnd` — an element is passed over up to its own end tag.
* `Follows.leaves_run` — a loop comes to what is read of its level.
* `read_eq_readForest` — a document is read as its forest is.
-/

namespace Linguist.Ts

open Xml
open Xml.Forest (levelAt levelAt_nil levelAt_zero levelAt_succ beyond beyond_nil levelAt_beyond
  beyond_beyond wellNested_beyond)

/-! ## What a reading leaves -/

/-- Taking events comes to the same as another reading, with the same notices, and leaves `rest`. -/
structure Leaves {α : Type} {items : List Item} (taking : Reading (α × Left items))
    (reading : Reading α) (rest : List Item) : Prop where
  notices : taking.notices = reading.notices
  result : taking.result.map (fun taken => (taken.1, taken.2.rest)) = reading.result.map (·, rest)

namespace Leaves

variable {α β γ : Type} {items items' rest rest' : List Item}

theorem pure (a : α) (left : Left items) : Leaves (pure (a, left)) (Pure.pure a) left.rest :=
  ⟨rfl, rfl⟩

theorem fail (fault : Fault) :
    Leaves (Logged.fail fault : Reading (α × Left items)) (Logged.fail fault) rest :=
  ⟨rfl, rfl⟩

/-- Both fail for the same reason, or both come to a value. -/
theorem fail_or_ok {taking : Reading (α × Left items)} {reading : Reading α}
    (h : Leaves taking reading rest) :
    (∃ notices fault, taking = ⟨notices, .error fault⟩ ∧ reading = ⟨notices, .error fault⟩) ∨
      ∃ notices a left, taking = ⟨notices, .ok (a, left)⟩ ∧ reading = ⟨notices, .ok a⟩ ∧
        left.rest = rest := by
  obtain ⟨notices, result⟩ := taking
  obtain ⟨notices', result'⟩ := reading
  obtain ⟨hNotices, hResult⟩ := h
  obtain rfl : notices = notices' := hNotices
  cases result with
  | error fault =>
    cases result' with
    | error fault' =>
      obtain rfl : fault = fault' := Except.error.inj hResult
      exact .inl ⟨notices, fault, rfl, rfl⟩
    | ok a => cases hResult
  | ok taken =>
    cases result' with
    | error fault => cases hResult
    | ok a =>
      obtain ⟨rfl, hLeft⟩ := Prod.mk.inj (Except.ok.inj hResult)
      exact .inr ⟨notices, taken.1, taken.2, rfl, rfl, hLeft⟩

/-- Whoever goes on after taking events goes on with what is left. -/
theorem bind {taking : Reading (α × Left items)} {reading : Reading α}
    {after : α × Left items → Reading (β × Left items')} {after' : α → Reading β}
    (h : Leaves taking reading rest)
    (hAfter : ∀ a (left : Left items), left.rest = rest →
      Leaves (after (a, left)) (after' a) rest') :
    Leaves (taking >>= after) (reading >>= after') rest' := by
  rcases h.fail_or_ok with ⟨notices, fault, rfl, rfl⟩ | ⟨notices, a, left, rfl, rfl, hLeft⟩
  · exact ⟨rfl, rfl⟩
  · obtain ⟨hMore, hLast⟩ := hAfter a left hLeft
    exact ⟨congrArg (notices ++ ·) hMore, hLast⟩

/-- What becomes of the value makes no difference for the events. -/
theorem map {taking : Reading (α × Left items)} {reading : Reading α}
    (h : Leaves taking reading rest) (f : α → β) :
    Leaves (do
      let (a, left) ← taking
      return (f a, left)) (do return f (← reading)) rest :=
  h.bind fun a left hLeft => hLeft ▸ Leaves.pure (f a) left

/-- What is left of some events is also left of more of them. -/
theorem within {taking : Reading (α × Left items)} {reading : Reading α}
    (h : Leaves taking reading rest) (wider : Left items → Left items')
    (hWider : ∀ left, (wider left).rest = left.rest) :
    Leaves (do
      let (a, left) ← taking
      return (a, wider left)) reading rest := by
  rw [← bind_pure reading]
  refine h.bind fun a left hLeft => ?_
  have hRest : (wider left).rest = rest := (hWider left).trans hLeft
  exact hRest ▸ Leaves.pure a (wider left)

/-- What takes no events comes first on both sides. -/
theorem bind_left (first : Reading γ) {taking : γ → Reading (α × Left items)}
    {reading : γ → Reading α} (h : ∀ c, Leaves (taking c) (reading c) rest) :
    Leaves (first >>= taking) (first >>= reading) rest := by
  obtain ⟨notices, result⟩ := first
  cases result with
  | error fault => exact ⟨rfl, rfl⟩
  | ok c => exact ⟨congrArg (notices ++ ·) (h c).notices, (h c).result⟩

theorem ofReading (reading : Reading α) (left : Left items) :
    Leaves (do return (← reading, left)) reading left.rest := by
  have h := bind_left reading fun a => pure a left
  rwa [bind_pure] at h

theorem exists_left {taking : Reading (α × Left items)} {reading : Reading α}
    (h : Leaves taking reading rest) {a : α} (hRead : reading.result = .ok a) :
    ∃ left, taking.result = .ok (a, left) ∧ left.rest = rest := by
  rcases h.fail_or_ok with ⟨notices, fault, rfl, rfl⟩ | ⟨notices, b, left, rfl, rfl, hLeft⟩
  · cases hRead
  · obtain rfl : b = a := Except.ok.inj hRead
    exact ⟨left, rfl, hLeft⟩

/-- Where nothing else is taken, only the value counts. -/
theorem bind_fst {taking : Reading (α × Left items)} {reading : Reading α}
    (h : Leaves taking reading rest) (after : α → Reading β) :
    (do
      let (a, _) ← taking
      after a) = reading >>= after := by
  rcases h.fail_or_ok with ⟨notices, fault, rfl, rfl⟩ | ⟨notices, a, left, rfl, rfl, -⟩ <;> rfl

end Leaves

/-! ## Elements passed over -/

theorem map_rest_behind {items : List Item} (item : Item) (taking : Except Fault (Left items)) :
    (taking >>= fun left => pure (left.behind item)).map Left.rest = taking.map Left.rest := by
  cases taking <;> rfl

/-- Whether an element is complete is told by the level behind its start tag, and there by the rest
of the level. -/
theorem passOver_levelAt_cons {ending : Ending} (tag : Tag) (item : Item) (items : List Item)
    (n : Nat) :
    passOver tag (levelAt ending (item :: items) n) = match item.event, n with
      | .start _, n => passOver tag (levelAt ending items (n + 1))
      | .close _, 0 => .ok ()
      | .close _, n + 1 => passOver tag (levelAt ending items n)
      | _, n => passOver tag (levelAt ending items n) := by
  cases n with
  | zero =>
    rw [levelAt_zero]
    cases item.event <;> rfl
  | succ n =>
    rw [levelAt_succ]
    cases item.event <;> rfl

/-- The rest of an element is taken up to its own end tag: elements of its name inside it are
counted, and those of other names have end tags of their own. -/
theorem map_readToEnd {ending : Ending} (tag : Tag) {inside opened : List Bytes}
    {items : List Item} (h : WellNested (inside ++ tag.name :: opened) items) :
    (readToEnd ending tag.name (inside.count tag.name) items).map Left.rest
      = (passOver tag (levelAt ending items inside.length)).map
          fun _ => beyond inside.length items := by
  -- on the events, for any elements that are open inside the one whose end is looked for: the depth
  -- is how many of them have its name
  induction items generalizing inside with
  | nil => cases ending <;> rfl
  | cons item items ih =>
    rw [passOver_levelAt_cons]
    cases hEvent : item.event with
    | start other =>
      have hItems : WellNested (other.name :: inside ++ tag.name :: opened) items := h.start hEvent
      simp only [readToEnd, beyond, hEvent]
      rw [map_rest_behind, ← List.length_cons, ← ih hItems, List.count_cons]
      by_cases hName : other.name = tag.name
      · rw [if_pos hName, if_pos (beq_iff_eq.mpr hName)]
      · rw [if_neg hName, if_neg (mt beq_iff_eq.mp hName), Nat.add_zero]
    | close name =>
      simp only [readToEnd, beyond, hEvent]
      cases inside with
      | nil =>
        -- nothing is open inside, so this is the end tag of the element itself
        obtain ⟨hName, -⟩ := h.close hEvent
        rw [if_pos hName]
        rfl
      | cons expected inside =>
        -- the end tag of an element inside, which may have been counted
        obtain ⟨rfl, hItems⟩ := h.close hEvent
        by_cases hName : name = tag.name
        · rw [if_pos hName, hName, List.count_cons_self]
          exact (map_rest_behind item _).trans (ih hItems)
        · rw [if_neg hName, List.count_cons_of_ne hName]
          exact (map_rest_behind item _).trans (ih hItems)
    | _ =>
      have hItems := h.other (by simp [hEvent]) (by simp [hEvent])
      simp only [readToEnd, beyond, hEvent]
      rw [map_rest_behind]
      exact ih hItems

section Skipping

variable {α : Type} {ending : Ending} {tag : Tag} {opened : List Bytes} {items : List Item}

theorem leaves_readToEnd (h : WellNested (tag.name :: opened) items) (a : α) :
    Leaves (do return (a, ← readToEnd ending tag.name 0 items))
      (do
        passOver tag (levelAt ending items 0)
        return a)
      (beyond 0 items) := by
  have hEnd := @map_readToEnd ending tag [] opened items h
  rw [List.count_nil, List.length_nil] at hEnd
  -- both fail with the same fault, or both get to the end
  cases hTaken : readToEnd ending tag.name 0 items with
  | error fault =>
    cases hPassed : passOver tag (levelAt ending items 0) with
    | error fault' =>
      rw [hTaken, hPassed] at hEnd
      obtain rfl : fault = fault' := Except.error.inj hEnd
      exact ⟨rfl, rfl⟩
    | ok _ =>
      rw [hTaken, hPassed] at hEnd
      cases hEnd
  | ok left =>
    cases hPassed : passOver tag (levelAt ending items 0) with
    | error fault =>
      rw [hTaken, hPassed] at hEnd
      cases hEnd
    | ok _ =>
      rw [hTaken, hPassed] at hEnd
      exact ⟨rfl, congrArg (fun rest => Except.ok (a, rest)) (Except.ok.inj hEnd)⟩

theorem leaves_skipElement (h : WellNested (tag.name :: opened) items) (a : α) :
    Leaves (do return (a, ← skipElement ending tag items))
      (do
        skip tag (levelAt ending items 0)
        return a)
      (beyond 0 items) := by
  unfold skipElement skip
  rw [bind_assoc, bind_assoc]
  exact Leaves.bind_left (Logged.note (skipNotice tag)) fun _ => leaves_readToEnd h a

end Skipping

/-! ## Loops -/

/-- A reading of a level from a state on does with every piece what a loop does with its events; an
element is read from the level behind its start tag. -/
structure Follows {σ τ : Type} (loop : Loop σ τ) (ending : Ending)
    (element : σ → Tag → Nat → Forest → Reading σ) (read : σ → Forest → Reading τ) : Prop where
  closed : ∀ state position, read state (.closed position) = loop.finish state position
  stop : ∀ state, read state (.stop ending) = Logged.fail (cutOff loop.element ending)
  text : ∀ state raw rest, read state (.text raw rest) = do read (← loop.text state raw) rest
  cdata : ∀ state raw rest, read state (.cdata raw rest) = do read (← loop.cdata state raw) rest
  empty : ∀ state tag position rest,
    read state (.empty tag position rest) = do read (← loop.empty state tag position) rest
  elements : ∀ state tag position body rest,
    read state (.element tag position body rest) = do read (← element state tag position body) rest
  start : ∀ state tag position {opened items}, WellNested (tag.name :: opened) items →
    Leaves (loop.start state tag position items)
      (element state tag position (levelAt ending items 0)) (beyond 0 items)

section Steps

variable {σ τ : Type} {loop : Loop σ τ} {ending : Ending} {state : σ} {item : Item}
  {items : List Item}

theorem run_cons_of_next {next : Reading (σ × Left items)}
    (h : loop.step state item items = do return .inr (← next)) :
    loop.run ending state (item :: items) = (do
      let (state, left) ← next
      let (value, last) ← loop.run ending state left.rest
      return (value, (left.andThen last).behind item)) := by
  rw [Loop.run, h, bind_assoc]
  rfl

theorem run_cons_of_end {value : Except Fault τ}
    (h : loop.step state item items = do return .inl (← value)) :
    loop.run ending state (item :: items)
      = (do return (← value, (Left.all items).behind item)) := by
  rw [Loop.run, h, bind_assoc]
  rfl

end Steps

namespace Follows

variable {σ τ : Type} {loop : Loop σ τ} {ending : Ending}
  {element : σ → Tag → Nat → Forest → Reading σ} {read : σ → Forest → Reading τ}

/-- A loop comes to what is read of the level it is started in, and leaves the events behind it. -/
theorem leaves_run (h : Follows loop ending element read) {name : Bytes} {opened : List Bytes}
    (hName : Utf8.decodeLossy name = loop.element) {items : List Item}
    (hNested : WellNested (name :: opened) items) (state : σ) :
    Leaves (loop.run ending state items) (read state (levelAt ending items 0)) (beyond 0 items) := by
  -- on the number of events that are left, since an element takes any number of them
  induction hLength : items.length using Nat.strongRecOn generalizing items state with
  | ind length ih =>
    cases items with
    | nil =>
      rw [Loop.run, levelAt_nil, h.stop]
      exact .fail _
    | cons item items =>
      -- behind what an event takes, the loop goes on in the same level
      have hNext {next : Reading (σ × Left items)} {next' : Reading σ} {rest : List Item}
          (hStep : loop.step state item items = do return .inr (← next))
          (hTaken : Leaves next next' rest) (hRest : WellNested (name :: opened) rest) :
          Leaves (loop.run ending state (item :: items))
            (do read (← next') (levelAt ending rest 0)) (beyond 0 rest) := by
        rw [run_cons_of_next hStep]
        refine hTaken.bind fun state left hLeft => ?_
        subst hLeft
        have hShorter : left.rest.length < length :=
          hLength ▸ Nat.lt_succ_of_le left.length_rest_le
        exact (ih _ hShorter hRest state rfl).within (fun last => (left.andThen last).behind item)
          fun _ => rfl
      -- nothing but a start tag takes more than its own event
      have hSame {next : Except Fault σ}
          (hStep : loop.step state item items = do return .inr (← next, .all items))
          (hItems : WellNested (name :: opened) items) :
          Leaves (loop.run ending state (item :: items))
            (do read (← next) (levelAt ending items 0)) (beyond 0 items) := by
        refine hNext ?_ (.ofReading (liftM next) (.all items)) hItems
        rw [hStep, bind_assoc]
        rfl
      rw [levelAt_zero]
      cases hEvent : item.event with
      | start tag =>
        have hItems := hNested.start hEvent
        have hStep : loop.step state item items
            = do return .inr (← loop.start state tag item.position items) := by
          rw [Loop.step, hEvent]
        have hLeaves := hNext hStep (h.start state tag item.position hItems)
          (@wellNested_beyond items [tag.name] _ 0 rfl hItems)
        rw [levelAt_beyond, beyond_beyond] at hLeaves
        simp only [beyond, hEvent]
        rw [h.elements]
        exact hLeaves
      | close found =>
        obtain ⟨hFound, -⟩ := hNested.close hEvent
        have hStep : loop.step state item items
            = do return .inl (← loop.finish state item.position) := by
          rw [Loop.step, hEvent]
          exact if_pos (hFound ▸ hName)
        simp only [beyond, hEvent]
        rw [run_cons_of_end hStep, h.closed]
        exact .ofReading _ ((Left.all items).behind item)
      | text raw =>
        simp only [beyond, hEvent]
        rw [h.text]
        exact hSame (by rw [Loop.step, hEvent]) (hNested.other (by simp [hEvent]) (by simp [hEvent]))
      | cdata raw =>
        simp only [beyond, hEvent]
        rw [h.cdata]
        exact hSame (by rw [Loop.step, hEvent]) (hNested.other (by simp [hEvent]) (by simp [hEvent]))
      | empty tag =>
        simp only [beyond, hEvent]
        rw [h.empty]
        exact hSame (by rw [Loop.step, hEvent]) (hNested.other (by simp [hEvent]) (by simp [hEvent]))
      | comment raw | instruction raw | doctype raw =>
        have hStep : loop.step state item items
            = do return .inr (← (pure state : Except Fault σ), .all items) := by
          rw [Loop.step, hEvent]
          rfl
        simp only [beyond, hEvent]
        exact hSame hStep (hNested.other (by simp [hEvent]) (by simp [hEvent]))

end Follows

/-! ## Texts and targets -/

theorem push_append (a b : String) (c : Char) :
    a.push c ++ b = a ++ (String.singleton c ++ b) := by
  rw [← String.append_singleton, String.append_assoc]

theorem follows_textLoop (ending : Ending) (label : String) :
    Follows (textLoop ending label) ending
      (fun text tag _ body => do
        skip tag body
        return text)
      fun text forest => (text ++ ·) <$> readText label forest where
  closed text position := by simp [textLoop, readText]
  stop text := rfl
  text text raw rest := by simp [textLoop, readText, String.append_assoc]
  cdata text raw rest := by simp [textLoop, readText, String.append_assoc]
  empty text tag position rest := by
    by_cases hByte : tag.label = "byte"
    · simp [textLoop, readText, hByte, push_append]
    · simp [textLoop, readText, hByte]
  elements text tag position body rest := by simp [readText]
  start text tag position _ _ hItems := leaves_skipElement hItems text

/-- The text of an element is taken up to the end tag of the element. -/
theorem leaves_takeText {ending : Ending} {label : String} {name : Bytes} {opened : List Bytes}
    {items : List Item} (hName : Utf8.decodeLossy name = label)
    (hItems : WellNested (name :: opened) items) :
    Leaves (takeText ending label items) (readText label (levelAt ending items 0))
      (beyond 0 items) := by
  have hRun := (follows_textLoop ending label).leaves_run hName hItems ""
  simpa [takeText] using hRun

/-- The text that is read from the forest behind a start tag is taken from the events there. -/
theorem exists_takeText {label text : String} {opened : List Bytes} {offset : Nat} {bytes : Bytes}
    (hRead : (readText label (Forest.ofEvents
      (Lexer.eventsFrom (Utf8.encode label :: opened) offset .fresh bytes))).result = .ok text) :
    let events := Lexer.eventsFrom (Utf8.encode label :: opened) offset .fresh bytes
    ∃ left, (takeText events.ending label events.items).result = .ok (text, left) ∧
      left.rest = beyond 0 events.items := by
  intro events
  have hNested : WellNested (Utf8.encode label :: opened) events.items :=
    wellNested_eventsFrom _ offset .fresh bytes
  have hTaken := @leaves_takeText events.ending _ _ _ _ (Utf8.decodeLossy_encode label) hNested
  -- the innermost level that is open there is the forest of these events
  rw [← Forest.ofEvents_eq] at hTaken
  exact hTaken.exists_left hRead

theorem follows_fillingLoop (ending : Ending) :
    Follows (fillingLoop ending) ending
      (fun filling tag _ body =>
        if tag.label = "numerusform" then do
          let form ← readText "numerusform" body
          return { filling with forms := filling.forms ++ [form] }
        else do
          skip tag body
          return filling)
      (fun filling forest => do
        let more ← readFilling forest
        return { text := filling.text ++ more.text, forms := filling.forms ++ more.forms }) where
  closed filling position := by simp [fillingLoop, readFilling]
  stop filling := rfl
  text filling raw rest := by simp [fillingLoop, readFilling, String.append_assoc]
  cdata filling raw rest := by simp [fillingLoop, readFilling, String.append_assoc]
  empty filling tag position rest := by
    by_cases hForm : tag.label = "numerusform"
    · simp [fillingLoop, readFilling, hForm]
    by_cases hByte : tag.label = "byte"
    · simp [fillingLoop, readFilling, hByte, push_append]
    · simp [fillingLoop, readFilling]
  elements filling tag position body rest := by
    by_cases hForm : tag.label = "numerusform"
    · simp [readFilling, hForm]
    · simp [readFilling, hForm]
  start filling tag position _ _ hItems := by
    dsimp only [fillingLoop]
    split
    · rename_i hForm
      exact (leaves_takeText hForm hItems).map fun form =>
        { filling with forms := filling.forms ++ [form] }
    · exact leaves_skipElement hItems filling

/-- A target is taken up to its end tag. -/
theorem leaves_takeTarget {ending : Ending} (numerus : Bool) (tag : Tag) (position : Nat)
    {name : Bytes} {opened : List Bytes} {items : List Item}
    (hName : Utf8.decodeLossy name = "translation") (hItems : WellNested (name :: opened) items) :
    Leaves (takeTarget ending numerus tag position items)
      (readTarget numerus tag position (levelAt ending items 0)) (beyond 0 items) := by
  have hFilling : Leaves ((fillingLoop ending).run ending {} items)
      (readFilling (levelAt ending items 0)) (beyond 0 items) := by
    simpa using (follows_fillingLoop ending).leaves_run hName hItems {}
  unfold takeTarget readTarget
  exact Leaves.bind_left _ fun status =>
    hFilling.map fun filling => (filling.target numerus, status)

/-! ## Messages -/

theorem follows_messageLoop (ending : Ending) (id : Option String) (numerus : Bool) :
    Follows (messageLoop ending id numerus) ending
      (fun draft tag position body =>
        if tag.label = "location" then do
          let location ← locationOf tag
          passOver tag body
          return { draft with locations := location :: draft.locations }
        else if tag.label = "translation" then do
          return { draft with target := ← readTarget numerus tag position body }
        else if isTextElement tag.label then do
          return (draft.setText? tag.label (← readText tag.label body)).getD draft
        else do
          skip tag body
          return draft)
      (fun draft forest => do
        let (draft, position) ← readDraft numerus draft forest
        draft.message id numerus position) where
  closed draft position := by simp [messageLoop, readDraft]
  stop draft := rfl
  text draft raw rest := by simp [messageLoop, readDraft]
  cdata draft raw rest := by simp [messageLoop, readDraft]
  empty draft tag position rest := by
    by_cases hLocation : tag.label = "location"
    · simp [messageLoop, readDraft, hLocation]
    by_cases hTarget : tag.label = "translation"
    · simp [messageLoop, readDraft, hTarget]
    · simp [messageLoop, readDraft]
  elements draft tag position body rest := by
    by_cases hLocation : tag.label = "location"
    · simp [readDraft, hLocation]
    by_cases hTarget : tag.label = "translation"
    · simp [readDraft, hTarget]
    by_cases hText : isTextElement tag.label
    · simp [readDraft, hLocation, hTarget, hText]
    · simp [readDraft, hLocation, hTarget, hText]
  start draft tag position _ _ hItems := by
    dsimp only [messageLoop]
    -- a location, a target, and behind these the texts and what is not known
    split
    · rename_i hLabel
      rw [if_pos hLabel]
      exact Leaves.bind_left _ fun location => leaves_readToEnd hItems
        { draft with locations := location :: draft.locations }
    · rename_i hLabel
      rw [if_neg (by simp [hLabel]), if_pos hLabel]
      exact (leaves_takeTarget numerus tag position hLabel hItems).map fun target =>
        { draft with target := target }
    · rename_i hLocation hTarget
      rw [if_neg hLocation, if_neg hTarget]
      split
      · exact (leaves_takeText rfl hItems).map fun text =>
          (draft.setText? tag.label text).getD draft
      · exact leaves_skipElement hItems draft

/-- A message is taken up to its end tag. -/
theorem leaves_takeMessage {ending : Ending} {tag : Tag} {opened : List Bytes} {items : List Item}
    (hName : tag.label = "message") (hItems : WellNested (tag.name :: opened) items) :
    Leaves (takeMessage ending tag items) (readMessage tag (levelAt ending items 0))
      (beyond 0 items) :=
  Leaves.bind_left _ fun numerus => Leaves.bind_left _ fun id =>
    (follows_messageLoop ending id numerus).leaves_run hName hItems {}

/-! ## Contexts and the catalogue -/

theorem follows_contextLoop (ending : Ending) (encoding : Option String) :
    Follows (contextLoop ending encoding) ending
      (fun draft tag _ body =>
        if tag.label = "name" then do
          return { draft with name := ← readText "name" body }
        else if tag.label = "comment" then do
          return { draft with comment := ← readText "comment" body }
        else if tag.label = "message" then do
          return { draft with messages := (← readMessage tag body) :: draft.messages }
        else do
          skip tag body
          return draft)
      (fun draft forest => do
        let (draft, position) ← readContextDraft draft forest
        draft.context encoding position) where
  closed draft position := by simp [contextLoop, readContextDraft]
  stop draft := rfl
  text draft raw rest := by simp [contextLoop, readContextDraft]
  cdata draft raw rest := by simp [contextLoop, readContextDraft]
  empty draft tag position rest := by
    by_cases hMessage : tag.label = "message"
    · simp only [contextLoop, readContextDraft, hMessage]
      rfl
    by_cases hName : tag.label = "name"
    · simp [contextLoop, readContextDraft, hName]
    by_cases hComment : tag.label = "comment"
    · simp [contextLoop, readContextDraft, hComment]
    · simp [contextLoop, readContextDraft]
  elements draft tag position body rest := by
    rw [readContextDraft]
    split
    · rename_i hLabel
      simp [hLabel]
    · rename_i hLabel
      simp [hLabel]
    · rename_i hLabel
      simp [hLabel]
    · rename_i hName hComment hMessage
      simp [if_neg hName, if_neg hComment, if_neg hMessage]
  start draft tag position _ _ hItems := by
    dsimp only [contextLoop]
    split
    · rename_i hLabel
      rw [if_pos hLabel]
      exact (leaves_takeText hLabel hItems).map fun name => { draft with name := name }
    · rename_i hLabel
      rw [if_neg (by simp [hLabel]), if_pos hLabel]
      exact (leaves_takeText hLabel hItems).map fun comment => { draft with comment := comment }
    · rename_i hLabel
      rw [if_neg (by simp [hLabel]), if_neg (by simp [hLabel]), if_pos hLabel]
      exact (leaves_takeMessage hLabel hItems).map fun message =>
        { draft with messages := message :: draft.messages }
    · rename_i hName hComment hMessage
      rw [if_neg hName, if_neg hComment, if_neg hMessage]
      exact leaves_skipElement hItems draft

/-- A context is taken up to its end tag. -/
theorem leaves_takeContext {ending : Ending} {tag : Tag} {opened : List Bytes} {items : List Item}
    (hName : tag.label = "context") (hItems : WellNested (tag.name :: opened) items) :
    Leaves (takeContext ending tag items) (readContext tag (levelAt ending items 0))
      (beyond 0 items) :=
  Leaves.bind_left _ fun encoding =>
    (follows_contextLoop ending encoding).leaves_run hName hItems {}

theorem follows_catalogLoop (ending : Ending) :
    Follows (catalogLoop ending) ending
      (fun contexts tag _ body =>
        if tag.label = "context" then do
          return (← readContext tag body) :: contexts
        else do
          skip tag body
          return contexts)
      (fun contexts forest => (contexts.reverse ++ ·) <$> readContexts forest) where
  closed contexts position := by simp [catalogLoop, readContexts]
  stop contexts := rfl
  text contexts raw rest := by simp [catalogLoop, readContexts]
  cdata contexts raw rest := by simp [catalogLoop, readContexts]
  empty contexts tag position rest := by
    rw [readContexts]
    dsimp only [catalogLoop]
    split
    · rfl
    · simp
  elements contexts tag position body rest := by
    rw [readContexts]
    split <;> simp
  start contexts tag position _ _ hItems := by
    dsimp only [catalogLoop]
    split
    · rename_i hLabel
      exact (leaves_takeContext hLabel hItems).map fun context => context :: contexts
    · exact leaves_skipElement hItems contexts

/-! ## Documents -/

/-- The contexts of a root are taken up to its end tag. -/
theorem leaves_run_catalogLoop {ending : Ending} {tag : Tag} {opened : List Bytes}
    {items : List Item} (hName : tag.label = "TS") (hItems : WellNested (tag.name :: opened) items) :
    Leaves ((catalogLoop ending).run ending [] items) (readContexts (levelAt ending items 0))
      (beyond 0 items) := by
  simpa using (follows_catalogLoop ending).leaves_run hName hItems []

/-- The events of a document come to the same as its forest: up to the first element nothing
counts, and behind the root nothing is taken. -/
theorem readEvents_eq_readForest {ending : Ending} {items : List Item} (h : WellNested [] items) :
    readEvents ending items = readForest (levelAt ending items 0) := by
  induction items with
  | nil => cases ending <;> rfl
  | cons item items ih =>
    rw [levelAt_zero]
    cases hEvent : item.event with
    | start tag =>
      simp only [readEvents, readForest, hEvent]
      split
      · rename_i hLabel
        have hContexts := @leaves_run_catalogLoop ending tag [] items hLabel (h.start hEvent)
        exact bind_congr fun header => hContexts.bind_fst fun contexts => do
          let catalog := { header with contexts }
          Logged.note (readNotice catalog)
          return catalog
      · rfl
    | empty tag =>
      simp only [readEvents, readForest, hEvent]
    | close name =>
      -- nothing is open in front of the root
      obtain ⟨_, hNest, -⟩ := h
      rw [hEvent] at hNest
      cases hNest
    | _ =>
      simp only [readEvents, readForest, hEvent]
      exact ih (h.other (by simp [hEvent]) (by simp [hEvent]))

/-- **One reader.** A document is read as its forest is, with the same notices. -/
theorem read_eq_readForest (bytes : Bytes) : read bytes = readForest (Forest.ofBytes bytes) := by
  rw [Forest.ofBytes, Forest.ofEvents_eq]
  exact readEvents_eq_readForest (wellNested_eventsFrom [] 0 .fresh (dropMark bytes))

end Linguist.Ts
