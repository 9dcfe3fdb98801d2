import Linguist.Proofs.Xml.Content

/-!
# Linguist — the levels behind a place in a document

Whoever reads the events of a document stands at one place in them. The levels of
the forest that are still open there are told by the events that are left: the
innermost one comes first, and the events behind its end tag tell the others. Since
end tags are checked while a document is read, that end tag is the one of the
element around.

* `WellNested` — end tags match the elements that are open; `wellNested_eventsFrom`.
* `levelAt` — the levels that are open in front of some events.
* `beyond` — the events behind the end of a level.
* `levelAt_beyond`, `beyond_beyond` — the levels there.
-/

namespace Linguist.Xml

/-! ## Matching end tags -/

/-- Whether each end tag is the one of the element that was opened last. -/
def WellNested (opened : List Bytes) : List Item → Prop
  | [] => True
  | item :: items => ∃ inside, Lexer.nest opened item.event = .ok inside ∧ WellNested inside items

/-- A document is read up to the first end tag that does not match. -/
theorem wellNested_eventsFrom (opened : List Bytes) (offset : Nat) (state : Lexer.State)
    (bytes : Bytes) : WellNested opened (Lexer.eventsFrom opened offset state bytes).items := by
  induction bytes generalizing opened offset state with
  | nil =>
    rw [Lexer.eventsFrom]
    cases hFinish : state.finish with
    | error fault => trivial
    | ok last =>
      cases last with
      | none => trivial
      | some event =>
        -- only character data is completed by the end of a document
        cases state <;> simp only [Lexer.State.finish, Except.ok.injEq, reduceCtorEq] at hFinish
        split at hFinish
        · cases hFinish
        · cases hFinish
          exact ⟨opened, rfl, trivial⟩
  | cons b rest ih =>
    rw [Lexer.eventsFrom]
    cases state.next b with
    | error fault => trivial
    | ok after =>
      obtain ⟨event, state⟩ := after
      cases event with
      | none => exact ih opened _ state
      | some event =>
        dsimp only
        cases hNest : Lexer.nest opened event with
        | error fault => trivial
        | ok inside => exact ⟨inside, hNest, ih inside _ state⟩

section Steps

variable {opened : List Bytes} {item : Item} {items : List Item} {name expected : Bytes} {tag : Tag}

theorem WellNested.start (h : WellNested opened (item :: items)) (hStart : item.event = .start tag) :
    WellNested (tag.name :: opened) items := by
  obtain ⟨inside, hNest, hItems⟩ := h
  rw [hStart] at hNest
  cases hNest
  exact hItems

/-- The end tag has the name of the element around. -/
theorem WellNested.close (h : WellNested (expected :: opened) (item :: items))
    (hClose : item.event = .close name) : name = expected ∧ WellNested opened items := by
  obtain ⟨inside, hNest, hItems⟩ := h
  rw [hClose, Lexer.nest] at hNest
  split at hNest
  · cases hNest
    exact ⟨‹_›, hItems⟩
  · cases hNest

theorem WellNested.other (h : WellNested opened (item :: items))
    (hStart : ∀ tag, item.event ≠ .start tag) (hClose : ∀ name, item.event ≠ .close name) :
    WellNested opened items := by
  obtain ⟨inside, hNest, hItems⟩ := h
  cases hEvent : item.event with
  | start tag => exact absurd hEvent (hStart tag)
  | close name => exact absurd hEvent (hClose name)
  | _ =>
    rw [hEvent] at hNest
    cases hNest
    exact hItems

end Steps

/-! ## Levels -/

namespace Forest

section Levels

variable {ending : Ending}

/-- The levels that are open in front of some events: the innermost one, or the one `n` levels
around it. -/
def levelAt (ending : Ending) (items : List Item) (n : Nat) : Forest :=
  (items.foldr (graft ending) []).getD n (.stop ending)

theorem ofEvents_eq (events : Events) :
    ofEvents events = levelAt events.ending events.items 0 := by
  rw [ofEvents, levelAt]
  cases events.items.foldr (graft events.ending) [] <;> rfl

theorem levelAt_nil (n : Nat) : levelAt ending [] n = .stop ending :=
  rfl

/-- The innermost level starts with what stands in front of it; an element takes the level behind
its start tag, and the one around that follows it. -/
theorem levelAt_zero (item : Item) (items : List Item) :
    levelAt ending (item :: items) 0 = match item.event with
      | .text raw => .text raw (levelAt ending items 0)
      | .cdata raw => .cdata raw (levelAt ending items 0)
      | .empty tag => .empty tag item.position (levelAt ending items 0)
      | .start tag => .element tag item.position (levelAt ending items 0) (levelAt ending items 1)
      | .close _ => .closed item.position
      | _ => levelAt ending items 0 := by
  unfold levelAt
  rw [List.foldr_cons]
  rcases items.foldr (graft ending) [] with _ | ⟨here, _ | ⟨outer, levels⟩⟩ <;>
    cases hEvent : item.event <;> simp [graft, hEvent]

/-- The levels around it are the same, but for the level that a start tag opens and an end tag
leaves. -/
theorem levelAt_succ (item : Item) (items : List Item) (n : Nat) :
    levelAt ending (item :: items) (n + 1) = match item.event with
      | .start _ => levelAt ending items (n + 2)
      | .close _ => levelAt ending items n
      | _ => levelAt ending items (n + 1) := by
  unfold levelAt
  rw [List.foldr_cons]
  rcases items.foldr (graft ending) [] with _ | ⟨here, _ | ⟨outer, levels⟩⟩ <;>
    cases hEvent : item.event <;> simp [graft, hEvent]

end Levels

/-! ## Behind a level -/

/-- The events behind the end of the innermost level, or of the one `n` levels around it. -/
def beyond (n : Nat) : List Item → List Item
  | [] => []
  | item :: items =>
    match item.event, n with
    | .start _, n => beyond (n + 1) items
    | .close _, 0 => items
    | .close _, n + 1 => beyond n items
    | _, n => beyond n items

section Beyond

variable {ending : Ending} {items : List Item}

@[simp] theorem beyond_nil (n : Nat) : beyond n [] = [] := by
  rw [beyond]

/-- Behind a level, the levels around it are open. -/
theorem levelAt_beyond (items : List Item) (n m : Nat) :
    levelAt ending (beyond n items) m = levelAt ending items (n + m + 1) := by
  induction items generalizing n with
  | nil => rw [beyond_nil, levelAt_nil, levelAt_nil]
  | cons item items ih =>
    rw [levelAt_succ]
    cases hEvent : item.event with
    | start tag =>
      simp only [beyond, hEvent]
      rw [ih, Nat.add_right_comm n 1 m]
    | close name =>
      cases n with
      | zero => simp only [beyond, hEvent, Nat.zero_add]
      | succ n =>
        simp only [beyond, hEvent]
        rw [ih, Nat.add_right_comm n 1 m]
    | _ =>
      simp only [beyond, hEvent]
      exact ih n

theorem beyond_beyond (items : List Item) (n m : Nat) :
    beyond m (beyond n items) = beyond (n + m + 1) items := by
  induction items generalizing n with
  | nil => simp
  | cons item items ih =>
    cases hEvent : item.event with
    | start tag =>
      simp only [beyond, hEvent]
      rw [ih, Nat.add_right_comm n 1 m]
    | close name =>
      cases n with
      | zero => simp only [beyond, hEvent, Nat.zero_add]
      | succ n =>
        rw [Nat.add_right_comm n 1 m]
        simp only [beyond, hEvent]
        exact ih n
    | _ =>
      simp only [beyond, hEvent]
      exact ih n

/-- The end tags behind a level match the elements around it. -/
theorem wellNested_beyond {inside opened : List Bytes} {n : Nat} (hLength : inside.length = n + 1)
    (h : WellNested (inside ++ opened) items) : WellNested opened (beyond n items) := by
  induction items generalizing inside n with
  | nil =>
    rw [beyond_nil]
    trivial
  | cons item items ih =>
    cases hEvent : item.event with
    | start tag =>
      have hLonger : (tag.name :: inside).length = n + 1 + 1 := congrArg Nat.succ hLength
      simp only [beyond, hEvent]
      exact ih hLonger (h.start hEvent)
    | close name =>
      obtain ⟨expected, inside, rfl⟩ := List.exists_cons_of_length_eq_add_one hLength
      obtain ⟨-, hItems⟩ := h.close hEvent
      simp only [beyond, hEvent]
      cases n with
      | zero =>
        obtain rfl := List.length_eq_zero_iff.mp (Nat.succ.inj hLength)
        exact hItems
      | succ n => exact ih (Nat.succ.inj hLength) hItems
    | _ =>
      simp only [beyond, hEvent]
      exact ih hLength (h.other (by simp [hEvent]) (by simp [hEvent]))

end Beyond

/-! ## Content in front of a place -/

mutual

/-- A piece closes what it opens, so the end of a level around it is the one behind it. -/
theorem beyond_piece (piece : Content) (items rest : List Item)
    (hItems : items.map (·.event) = piece.events) (n : Nat) :
    beyond n (items ++ rest) = beyond n rest := by
  match piece with
  | .text _ | .cdata _ | .comment _ | .instruction _ | .doctype _ | .empty _ =>
    obtain ⟨item, rfl, hItem⟩ := List.map_eq_singleton_iff.mp hItems
    simp only [List.singleton_append, beyond, hItem]
  | .element tag children =>
    rw [Content.events, List.cons_append, List.map_eq_cons_iff] at hItems
    obtain ⟨start, inner, rfl, hStart, hInner⟩ := hItems
    rw [List.map_eq_append_iff] at hInner
    obtain ⟨body, last, rfl, hBody, hLast⟩ := hInner
    obtain ⟨close, rfl, hClose⟩ := List.map_eq_singleton_iff.mp hLast
    -- the start tag opens a level, and its content leaves that to the end tag
    rw [List.cons_append, List.append_assoc]
    simp only [beyond, hStart]
    rw [beyond_pieces children body _ hBody, List.singleton_append]
    simp only [beyond, hClose]

theorem beyond_pieces (content : List Content) (items rest : List Item)
    (hItems : items.map (·.event) = Content.eventsAll content) (n : Nat) :
    beyond n (items ++ rest) = beyond n rest := by
  match content with
  | [] =>
    rw [Content.eventsAll, List.map_eq_nil_iff] at hItems
    rw [hItems, List.nil_append]
  | piece :: content =>
    rw [Content.eventsAll, List.map_eq_append_iff] at hItems
    obtain ⟨first, others, rfl, hFirst, hOthers⟩ := hItems
    rw [List.append_assoc, beyond_piece piece first _ hFirst, beyond_pieces content others _ hOthers]

end

/-- Behind the content of an element and its end tag stands what follows the element. -/
theorem beyond_inside {content : List Content} {inside : List Item} {close : Item} {name : Bytes}
    (hInside : inside.map (·.event) = Content.eventsAll content)
    (hClose : close.event = .close name) (after : List Item) :
    beyond 0 (inside ++ [close] ++ after) = after := by
  rw [List.append_assoc, beyond_pieces content inside _ hInside, List.singleton_append]
  simp only [beyond, hClose]

end Forest

end Linguist.Xml
