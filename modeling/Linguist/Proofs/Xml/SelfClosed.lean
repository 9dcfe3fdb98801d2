import Linguist.Proofs.Xml.Rendering

/-!
# Linguist — self-closed elements and elements with an empty body

An element without content is spelled with a slash at the end of its tag or with
an end tag behind it. The two spellings yield different events, but whatever
stands around the element is read the same way, complete or not, only at other
positions. So the forests of the two documents differ at the one element and
nowhere else.

* `selfClosed`, `emptyBody` — the two spellings of an element.
* `Forest.Alike` — levels that differ in the spelling of some elements and in positions.
* `Events.Alike` — sequences of events whose levels are alike.
* `Forest.alike_ofBytes` — documents that differ in the spelling of an element.
-/

namespace Linguist.Xml

/-- An element with a slash at the end of its tag. -/
def selfClosed (tag : Tag) : Bytes :=
  0x3C :: (tag.content ++ [0x2F, 0x3E])

/-- An element with its end tag behind its start tag. -/
def emptyBody (tag : Tag) : Bytes :=
  0x3C :: (tag.content ++ [0x3E, 0x3C, 0x2F] ++ tag.name ++ [0x3E])

/-- Whether both spellings, read for themselves, are an element with this tag. -/
structure IsElement (tag : Tag) : Prop where
  selfClosed : Lexer.feed ⟨[], .fresh⟩ (selfClosed tag) = some ([.empty tag], ⟨[], .fresh⟩)
  emptyBody : Lexer.feed ⟨[], .fresh⟩ (emptyBody tag)
    = some ([.start tag, .close tag.name], ⟨[], .fresh⟩)

/-! ## Levels that are alike -/

/-- Endings that differ in their position. -/
inductive Ending.Alike : Ending → Ending → Prop
  | eof (p q : Nat) : Alike (.eof p) (.eof q)
  | fault (fault : Fault) : Alike (.fault fault) (.fault fault)

namespace Forest

/-- Levels that differ in positions, and where the one has a self-closed element that `permits` it
the other may have it with an empty body. `inside` are the names of the elements around, innermost
first. -/
inductive Alike (permits : List Bytes → Tag → Prop) : List Bytes → Forest → Forest → Prop
  | closed (inside : List Bytes) (p q : Nat) : Alike permits inside (.closed p) (.closed q)
  | stop {a b : Ending} (inside : List Bytes) :
      a.Alike b → Alike permits inside (.stop a) (.stop b)
  | text {inside : List Bytes} {a b : Forest} (raw : Bytes) :
      Alike permits inside a b → Alike permits inside (.text raw a) (.text raw b)
  | cdata {inside : List Bytes} {a b : Forest} (raw : Bytes) :
      Alike permits inside a b → Alike permits inside (.cdata raw a) (.cdata raw b)
  | empty {inside : List Bytes} {a b : Forest} (tag : Tag) (p q : Nat) :
      Alike permits inside a b → Alike permits inside (.empty tag p a) (.empty tag q b)
  | element {inside : List Bytes} {body body' a b : Forest} (tag : Tag) (p q : Nat) :
      Alike permits (tag.name :: inside) body body' → Alike permits inside a b →
      Alike permits inside (.element tag p body a) (.element tag q body' b)
  | swapped {inside : List Bytes} {a b : Forest} (tag : Tag) (p q r : Nat) :
      permits inside tag → Alike permits inside a b →
      Alike permits inside (.empty tag p a) (.element tag q (.closed r) b)

variable {permits : List Bytes → Tag → Prop} {ending ending' : Ending}

/-- The levels that are still to be read, innermost first, each inside one of the open elements
and the last one in the document. -/
def AlikeLevels (permits : List Bytes → Tag → Prop) (ending ending' : Ending) :
    List Bytes → List Forest → List Forest → Prop
  | [], levels, levels' => Alike permits [] (here ending levels) (here ending' levels')
  | name :: outer, levels, levels' =>
    Alike permits (name :: outer) (here ending levels) (here ending' levels') ∧
      AlikeLevels permits ending ending' outer levels.tail levels'.tail

theorem AlikeLevels.head {opened : List Bytes} {levels levels' : List Forest}
    (h : AlikeLevels permits ending ending' opened levels levels') :
    Alike permits opened (here ending levels) (here ending' levels') := by
  cases opened with
  | nil => exact h
  | cons name outer => exact h.1

theorem AlikeLevels.replace {opened : List Bytes} {levels levels' : List Forest} {a b : Forest}
    (h : AlikeLevels permits ending ending' opened levels levels')
    (hHere : Alike permits opened a b) :
    AlikeLevels permits ending ending' opened (a :: levels.tail) (b :: levels'.tail) := by
  cases opened with
  | nil => exact hHere
  | cons name outer => exact ⟨hHere, h.2⟩

theorem alikeLevels_nil (h : ending.Alike ending') (opened : List Bytes) :
    AlikeLevels permits ending ending' opened [] [] := by
  induction opened with
  | nil => exact .stop [] h
  | cons name outer ih => exact ⟨.stop _ h, ih⟩

/-- An event keeps levels alike, among the elements that are open in front of it. -/
theorem AlikeLevels.graft {opened inner : List Bytes} {levels levels' : List Forest}
    {event : Event} (p q : Nat) (hNest : Lexer.nest opened event = .ok inner)
    (h : AlikeLevels permits ending ending' inner levels levels') :
    AlikeLevels permits ending ending' opened (Forest.graft ending ⟨event, p⟩ levels)
      (Forest.graft ending' ⟨event, q⟩ levels') := by
  cases event with
  | text raw =>
    obtain rfl : opened = inner := Except.ok.inj hNest
    exact h.replace (.text raw h.head)
  | cdata raw =>
    obtain rfl : opened = inner := Except.ok.inj hNest
    exact h.replace (.cdata raw h.head)
  | empty tag =>
    obtain rfl : opened = inner := Except.ok.inj hNest
    exact h.replace (.empty tag p q h.head)
  | comment raw | instruction raw | doctype raw =>
    obtain rfl : opened = inner := Except.ok.inj hNest
    exact h
  | start tag =>
    -- the innermost level becomes the content of the element in front of the next one
    obtain rfl : tag.name :: opened = inner := Except.ok.inj hNest
    obtain ⟨hBody, hOuter⟩ := h
    exact hOuter.replace (.element tag p q hBody hOuter.head)
  | close name =>
    cases opened with
    | nil => cases hNest
    | cons expected outer =>
      rw [Lexer.nest] at hNest
      split at hNest
      · obtain rfl : outer = inner := Except.ok.inj hNest
        exact ⟨.closed _ p q, h⟩
      · cases hNest

end Forest

/-! ## Events that are alike -/

/-- Sequences of events whose levels are alike. -/
structure Events.Alike (permits : List Bytes → Tag → Prop) (opened : List Bytes)
    (a b : Events) : Prop where
  ending : a.ending.Alike b.ending
  levels : Forest.AlikeLevels permits a.ending b.ending opened
    (a.items.foldr (Forest.graft a.ending) []) (b.items.foldr (Forest.graft b.ending) [])

namespace Events

variable {permits : List Bytes → Tag → Prop} {opened inner : List Bytes} {a b : Events}

theorem alike_stop {e e' : Ending} (h : e.Alike e') (opened : List Bytes) :
    Alike permits opened ⟨[], e⟩ ⟨[], e'⟩ :=
  ⟨h, Forest.alikeLevels_nil h opened⟩

theorem Alike.cons {event : Event} (p q : Nat) (hNest : Lexer.nest opened event = .ok inner)
    (h : Alike permits inner a b) :
    Alike permits opened ⟨⟨event, p⟩ :: a.items, a.ending⟩ ⟨⟨event, q⟩ :: b.items, b.ending⟩ :=
  ⟨h.ending, h.levels.graft p q hNest⟩

theorem Alike.swapped {tag : Tag} (p q r : Nat) (name : Bytes) (hPermits : permits opened tag)
    (h : Alike permits opened a b) :
    Alike permits opened ⟨⟨.empty tag, p⟩ :: a.items, a.ending⟩
      ⟨⟨.start tag, q⟩ :: ⟨.close name, r⟩ :: b.items, b.ending⟩ :=
  ⟨h.ending, h.levels.replace (.swapped tag p q r hPermits h.levels.head)⟩

end Events

/-! ## The walk over two documents -/

namespace Lexer

variable {permits : List Bytes → Tag → Prop}

theorem nest_within {opened inner : List Bytes} {event : Event}
    (h : nest opened event = .ok inner) (outer : List Bytes) :
    nest (opened ++ outer) event = .ok (inner ++ outer) := by
  cases event with
  | close name =>
    cases opened with
    | nil => cases h
    | cons expected rest =>
      rw [nest] at h
      rw [List.cons_append, nest]
      split at h
      · rename_i hName
        obtain rfl : rest = inner := Except.ok.inj h
        rw [if_pos hName]
      · cases h
  | start tag =>
    obtain rfl : tag.name :: opened = inner := Except.ok.inj h
    rfl
  | _ =>
    obtain rfl : opened = inner := Except.ok.inj h
    rfl

/-- A byte yields nothing, or an event that fits the open elements. -/
theorem Front.next_cases {front next : Front} {b : UInt8} {events : List Event}
    (h : front.next b = some (events, next)) :
    (front.state.next b = .ok (none, next.state) ∧ events = [] ∧ next.opened = front.opened) ∨
      ∃ event, front.state.next b = .ok (some event, next.state) ∧ events = [event] ∧
        nest front.opened event = .ok next.opened := by
  unfold Front.next at h
  split at h
  · cases h
  · rename_i state hState
    simp only [Option.some.injEq, Prod.mk.injEq] at h
    obtain ⟨rfl, rfl⟩ := h
    exact .inl ⟨hState, rfl, rfl⟩
  · rename_i event state hState
    split at h
    · cases h
    · rename_i opened hNest
      simp only [Option.some.injEq, Prod.mk.injEq] at h
      obtain ⟨rfl, rfl⟩ := h
      exact .inr ⟨event, hState, rfl, hNest⟩

/-- The open elements outside do not matter to bytes that close only what they open. -/
theorem feed_within {front last : Front} {bytes : Bytes} {events : List Event}
    (h : feed front bytes = some (events, last)) (outer : List Bytes) :
    feed ⟨front.opened ++ outer, front.state⟩ bytes
      = some (events, ⟨last.opened ++ outer, last.state⟩) := by
  induction bytes generalizing front events with
  | nil =>
    simp only [feed, Option.some.injEq, Prod.mk.injEq] at h
    obtain ⟨rfl, rfl⟩ := h
    rfl
  | cons b bytes ih =>
    obtain ⟨first, middle, others, hFirst, hOthers, rfl⟩ := exists_of_feed_cons h
    have hNext : Front.next ⟨front.opened ++ outer, front.state⟩ b
        = some (first, ⟨middle.opened ++ outer, middle.state⟩) := by
      rcases Front.next_cases hFirst with ⟨hState, rfl, hOpened⟩ | ⟨event, hState, rfl, hNest⟩
      · simp [Front.next, hState, hOpened]
      · simp [Front.next, hState, nest_within hNest outer]
    exact feed_cons hNext (ih hOthers)

/-- Two documents with the same next byte are read alike if they are behind it, where it is no
fault. -/
theorem alike_eventsFrom_cons {front : Front} {b : UInt8} {xs ys : Bytes}
    (h : ∀ events next, front.next b = some (events, next) → ∀ offset offset',
      Events.Alike permits next.opened (eventsFrom next.opened offset next.state xs)
        (eventsFrom next.opened offset' next.state ys)) (offset offset' : Nat) :
    Events.Alike permits front.opened (eventsFrom front.opened offset front.state (b :: xs))
      (eventsFrom front.opened offset' front.state (b :: ys)) := by
  rw [eventsFrom, eventsFrom]
  cases hState : front.state.next b with
  | error fault => exact Events.alike_stop (.fault fault) _
  | ok result =>
    obtain ⟨_ | event, state⟩ := result
    · have hNext : front.next b = some ([], ⟨front.opened, state⟩) := by
        simp [Front.next, hState]
      exact h _ _ hNext _ _
    · dsimp only
      cases hNest : nest front.opened event with
      | error fault => exact Events.alike_stop (.fault fault) _
      | ok opened =>
        have hNext : front.next b = some ([event], ⟨opened, state⟩) := by
          simp [Front.next, hState, hNest]
        exact (h _ _ hNext _ _).cons _ _ hNest

/-- The same bytes are read alike wherever they stand. -/
theorem alike_eventsFrom (bytes : Bytes) (front : Front) (offset offset' : Nat) :
    Events.Alike permits front.opened (eventsFrom front.opened offset front.state bytes)
      (eventsFrom front.opened offset' front.state bytes) := by
  induction bytes generalizing front offset offset' with
  | nil =>
    rw [eventsFrom, eventsFrom]
    -- the end may be a fault, nothing, or character data behind the last tag
    cases hFinish : front.state.finish with
    | error fault => exact Events.alike_stop (.fault fault) _
    | ok event? =>
      cases event? with
      | none => exact Events.alike_stop (.eof _ _) _
      | some event =>
        obtain ⟨run, rfl⟩ := exists_text_of_finish hFinish
        have hEnd : Events.Alike permits front.opened ⟨[], .eof offset⟩ ⟨[], .eof offset'⟩ :=
          Events.alike_stop (.eof _ _) _
        exact hEnd.cons offset offset' rfl
  | cons b bytes ih => exact alike_eventsFrom_cons (fun _ next _ => ih next) offset offset'

/-- Documents that start with the same bytes are read alike if they are behind them. -/
theorem alike_eventsFrom_append {front last : Front} {before xs ys : Bytes} {events : List Event}
    (hBefore : feed front before = some (events, last))
    (h : ∀ offset offset', Events.Alike permits last.opened
      (eventsFrom last.opened offset last.state xs) (eventsFrom last.opened offset' last.state ys))
    (offset offset' : Nat) :
    Events.Alike permits front.opened
      (eventsFrom front.opened offset front.state (before ++ xs))
      (eventsFrom front.opened offset' front.state (before ++ ys)) := by
  induction before generalizing front events offset offset' with
  | nil =>
    simp only [feed, Option.some.injEq, Prod.mk.injEq] at hBefore
    obtain ⟨-, rfl⟩ := hBefore
    exact h offset offset'
  | cons b before ih =>
    obtain ⟨first, middle, others, hFirst, hOthers, -⟩ := exists_of_feed_cons hBefore
    refine alike_eventsFrom_cons (fun _ next hNext => ?_) offset offset'
    obtain ⟨-, rfl⟩ : first = _ ∧ middle = next := by
      simpa using hFirst.symm.trans hNext
    exact ih hOthers

theorem feed_behind_bracket {last : Front} {bytes : Bytes} {events : List Event}
    (h : feed ⟨[], .fresh⟩ (0x3C :: bytes) = some (events, last)) (opened : List Bytes) :
    feed ⟨opened, .opened⟩ bytes = some (events, ⟨last.opened ++ opened, last.state⟩) := by
  obtain ⟨first, middle, others, hFirst, hOthers, rfl⟩ := exists_of_feed_cons h
  have hOpen : Front.next ⟨[], .fresh⟩ 0x3C = some ([], ⟨[], .opened⟩) := rfl
  obtain ⟨rfl, rfl⟩ : [] = first ∧ ⟨[], .opened⟩ = middle := by
    simpa using hOpen.symm.trans hFirst
  exact feed_within hOthers opened

/-- The two spellings of an element are read alike behind character data, with the same behind
them. -/
theorem alike_eventsFrom_element {opened : List Bytes} {tag : Tag} (hElement : IsElement tag)
    (hPermits : permits opened tag) (run after : Bytes) (offset offset' : Nat) :
    Events.Alike permits opened
      (eventsFrom opened offset (.text run) (selfClosed tag ++ after))
      (eventsFrom opened offset' (.text run) (emptyBody tag ++ after)) := by
  obtain ⟨events, hBracket⟩ : ∃ events,
      feed ⟨opened, .text run⟩ [0x3C] = some (events, ⟨opened, .opened⟩) := by
    rw [← List.reverse_reverse run]
    exact ⟨_, feed_bracket⟩
  refine alike_eventsFrom_append hBracket (fun offset offset' => ?_) offset offset'
  obtain ⟨items, hItems, hSelf⟩ := exists_eventsFrom_of_feed
    (feed_behind_bracket hElement.selfClosed opened) offset after
  obtain ⟨items', hItems', hBody⟩ := exists_eventsFrom_of_feed
    (feed_behind_bracket hElement.emptyBody opened) offset' after
  obtain ⟨⟨_, p⟩, rfl, rfl⟩ := List.map_eq_singleton_iff.mp hItems
  obtain ⟨⟨_, q⟩, _, rfl, rfl, hClose⟩ := List.map_eq_cons_iff.mp hItems'
  obtain ⟨⟨_, r⟩, rfl, rfl⟩ := List.map_eq_singleton_iff.mp hClose
  -- one event against two, and behind them the walk stands at the same place
  have hAfter := @alike_eventsFrom permits after ⟨opened, .fresh⟩
  exact (congr (congrArg (Events.Alike permits opened) hSelf) hBody).mpr
    ((hAfter _ _).swapped p q r tag.name hPermits)

end Lexer

/-! ## Documents -/

/-- **Documents that differ in the spelling of an element have forests that are alike.** The element
stands behind character data, inside the open elements. -/
theorem Forest.alike_ofBytes {permits : List Bytes → Tag → Prop} {before : Bytes}
    {events : List Event} {opened : List Bytes} {run : Bytes} {tag : Tag}
    (hBefore : Lexer.feed ⟨[], .fresh⟩ (dropMark before) = some (events, ⟨opened, .text run⟩))
    (hElement : IsElement tag) (hPermits : permits opened tag) (after : Bytes) :
    Forest.Alike permits [] (ofBytes (before ++ (selfClosed tag ++ after)))
      (ofBytes (before ++ (emptyBody tag ++ after))) := by
  unfold ofBytes Events.ofBytes selfClosed emptyBody
  rw [List.cons_append, List.cons_append, dropMark_append, dropMark_append]
  have hHere := Lexer.alike_eventsFrom_element hElement hPermits run after
  exact (Lexer.alike_eventsFrom_append hBefore hHere 0 0).levels

end Linguist.Xml
