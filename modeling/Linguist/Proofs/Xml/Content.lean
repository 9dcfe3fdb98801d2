import Linguist.Proofs.Xml.Forest

/-!
# Linguist — elements as trees

An element with everything in it, as a tree, and the events a document yields
for it. A forest that was built from the events of some content starts with that
content, wherever the events were read and whatever follows them: each element
takes its own end tag and no other.

* `Content.eventsAll` — the events of content.
* `eventsAll_append_inj` — no two trees have the same events.
* `Forest.Holds` — a level starts with some content, and a level follows it.
* `holds_ofEvents` — the forest of the events of content holds the content.
* `holds_inside` — content between a start tag and an end tag is an element.
-/

namespace Linguist.Xml

/-! ## Trees and their events -/

/-- A piece of a document. -/
inductive Content where
  | text (raw : Bytes)
  | cdata (raw : Bytes)
  | comment (raw : Bytes)
  | instruction (raw : Bytes)
  | doctype (raw : Bytes)
  /-- a self-closed element -/
  | empty (tag : Tag)
  | element (tag : Tag) (children : List Content)

mutual

/-- The events of a piece of a document. -/
def Content.events : Content → List Event
  | .text raw => [.text raw]
  | .cdata raw => [.cdata raw]
  | .comment raw => [.comment raw]
  | .instruction raw => [.instruction raw]
  | .doctype raw => [.doctype raw]
  | .empty tag => [.empty tag]
  | .element tag children => .start tag :: Content.eventsAll children ++ [.close tag.name]

/-- The events of pieces in a row. -/
def Content.eventsAll : List Content → List Event
  | [] => []
  | piece :: rest => piece.events ++ Content.eventsAll rest

end

theorem Content.eventsAll_append (a b : List Content) :
    Content.eventsAll (a ++ b) = Content.eventsAll a ++ Content.eventsAll b := by
  induction a with
  | nil => rfl
  | cons piece a ih => rw [List.cons_append, eventsAll, eventsAll, ih, List.append_assoc]

/-! ## Telling trees apart -/

/-- Whether a level ends in front of these events: no piece of a document starts with an end. -/
def EndsLevel (events : List Event) : Prop :=
  ∀ event ∈ events.head?, ∃ name, event = .close name

theorem endsLevel_nil : EndsLevel [] := by
  intro event h
  exact absurd h (by simp)

theorem endsLevel_close (name : Bytes) (events : List Event) :
    EndsLevel (.close name :: events) := by
  intro event h
  exact ⟨name, (Option.some.inj h).symm⟩

theorem Content.not_endsLevel (piece : Content) (events : List Event) :
    ¬ EndsLevel (piece.events ++ events) := by
  cases piece <;> simp [EndsLevel, Content.events]

mutual

/-- A piece of a document is told by its events, whatever follows them. -/
theorem Content.events_append_inj (a b : Content) {x y : List Event}
    (h : a.events ++ x = b.events ++ y) : a = b ∧ x = y := by
  -- on the tree: an element is told by its start tag, and then by the events up to its own end tag
  match a with
  | .text _ | .cdata _ | .comment _ | .instruction _ | .doctype _ | .empty _ =>
    cases b <;> simp_all [Content.events]
  | .element tag children =>
    cases b with
    | element tag' children' =>
      simp only [Content.events, List.cons_append, List.append_assoc, List.nil_append,
        List.cons.injEq, Event.start.injEq] at h
      obtain ⟨rfl, hChildren⟩ := h
      obtain ⟨rfl, hRest⟩ := Content.eventsAll_append_inj children children'
        (endsLevel_close tag.name x) (endsLevel_close tag.name y) hChildren
      exact ⟨rfl, (List.cons.inj hRest).2⟩
    | _ => simp [Content.events] at h

/-- So is content, up to where its level ends. -/
theorem Content.eventsAll_append_inj (a b : List Content) {x y : List Event} (hx : EndsLevel x)
    (hy : EndsLevel y) (h : Content.eventsAll a ++ x = Content.eventsAll b ++ y) :
    a = b ∧ x = y := by
  -- where one side is out of pieces, what follows it ends the level, and a piece would not
  match a, b with
  | [], [] => exact ⟨rfl, h⟩
  | [], piece :: b =>
    rw [Content.eventsAll, Content.eventsAll, List.nil_append, List.append_assoc] at h
    exact absurd (h ▸ hx) (piece.not_endsLevel _)
  | piece :: a, [] =>
    rw [Content.eventsAll, Content.eventsAll, List.nil_append, List.append_assoc] at h
    exact absurd (h ▸ hy) (piece.not_endsLevel _)
  | piece :: a, piece' :: b =>
    rw [Content.eventsAll, Content.eventsAll, List.append_assoc, List.append_assoc] at h
    obtain ⟨rfl, hRest⟩ := Content.events_append_inj piece piece' h
    obtain ⟨rfl, rfl⟩ := Content.eventsAll_append_inj a b hx hy hRest
    exact ⟨rfl, rfl⟩

end

namespace Forest

/-! ## Levels that hold content -/

/-- A level starts with some content and goes on with another level. Positions do not matter,
and what says nothing about the content leaves no trace. -/
inductive Holds : Forest → List Content → Forest → Prop
  | nil (forest : Forest) : Holds forest [] forest
  | text {forest rest : Forest} {content : List Content} (raw : Bytes) :
      Holds forest content rest → Holds (.text raw forest) (.text raw :: content) rest
  | cdata {forest rest : Forest} {content : List Content} (raw : Bytes) :
      Holds forest content rest → Holds (.cdata raw forest) (.cdata raw :: content) rest
  | comment {forest rest : Forest} {content : List Content} (raw : Bytes) :
      Holds forest content rest → Holds forest (.comment raw :: content) rest
  | instruction {forest rest : Forest} {content : List Content} (raw : Bytes) :
      Holds forest content rest → Holds forest (.instruction raw :: content) rest
  | doctype {forest rest : Forest} {content : List Content} (raw : Bytes) :
      Holds forest content rest → Holds forest (.doctype raw :: content) rest
  | empty {forest rest : Forest} {content : List Content} (tag : Tag) (position : Nat) :
      Holds forest content rest →
      Holds (.empty tag position forest) (.empty tag :: content) rest
  | element {body forest rest : Forest} {children content : List Content} (tag : Tag)
      (position close : Nat) :
      Holds body children (.closed close) → Holds forest content rest →
      Holds (.element tag position body forest) (.element tag children :: content) rest

/-- Content that is cut off nowhere does not stop a level. -/
theorem Holds.stopped?_eq {forest rest : Forest} {content : List Content}
    (h : Holds forest content rest) : forest.stopped? = rest.stopped? := by
  induction h with
  | nil => rfl
  | text _ _ ih | cdata _ _ ih | empty _ _ _ ih | element _ _ _ _ _ _ ih =>
    rw [stopped?, ih]
  | comment _ _ ih | instruction _ _ ih | doctype _ _ ih => exact ih

/-! ## Building -/

/-- The innermost of the levels that are still to be read. -/
def here (ending : Ending) (levels : List Forest) : Forest :=
  levels.headD (.stop ending)

section Building

variable {ending : Ending}

mutual

/-- The events of a piece put the piece in front of the innermost level and leave the others. -/
theorem holds_piece (piece : Content) (items : List Item)
    (hItems : items.map (·.event) = piece.events) (levels : List Forest) {rest : Forest}
    {content : List Content} (hHere : Holds (here ending levels) content rest) :
    Holds (here ending (items.foldr (graft ending) levels)) (piece :: content) rest ∧
      (items.foldr (graft ending) levels).tail = levels.tail := by
  -- the items are taken from the last to the first, so the levels are those behind the piece
  match piece with
  | .text _ | .cdata _ | .comment _ | .instruction _ | .doctype _ | .empty _ =>
    obtain ⟨item, rfl, hItem⟩ := List.map_eq_singleton_iff.mp hItems
    simp only [List.foldr_cons, List.foldr_nil, graft, hItem]
    exact ⟨by constructor; exact hHere, by trivial⟩
  | .element tag children =>
    rw [Content.events, List.cons_append, List.map_eq_cons_iff] at hItems
    obtain ⟨start, inner, rfl, hStart, hInner⟩ := hItems
    rw [List.map_eq_append_iff] at hInner
    obtain ⟨body, last, rfl, hBody, hLast⟩ := hInner
    obtain ⟨close, rfl, hClose⟩ := List.map_eq_singleton_iff.mp hLast
    have hClosed : graft ending close levels = .closed close.position :: levels := by
      simp only [graft, hClose]
    obtain ⟨hChildren, hTail⟩ := holds_pieces children body hBody (.closed close.position :: levels)
    -- the end tag opens a level of its own; the start tag takes it and leaves the others
    rw [List.foldr_cons, List.foldr_append, List.foldr_cons, List.foldr_nil, hClosed]
    simp only [graft, hStart, hTail, List.tail_cons]
    exact ⟨.element tag start.position close.position hChildren hHere, trivial⟩

/-- The events of content put the content in front of the innermost level. -/
theorem holds_pieces (content : List Content) (items : List Item)
    (hItems : items.map (·.event) = Content.eventsAll content) (levels : List Forest) :
    Holds (here ending (items.foldr (graft ending) levels)) content (here ending levels) ∧
      (items.foldr (graft ending) levels).tail = levels.tail := by
  match content with
  | [] =>
    rw [Content.eventsAll, List.map_eq_nil_iff] at hItems
    subst hItems
    exact ⟨.nil _, rfl⟩
  | piece :: content =>
    rw [Content.eventsAll, List.map_eq_append_iff] at hItems
    obtain ⟨first, others, rfl, hFirst, hOthers⟩ := hItems
    obtain ⟨hRest, hRestTail⟩ := holds_pieces content others hOthers levels
    obtain ⟨hPiece, hPieceTail⟩ := holds_piece piece first hFirst _ hRest
    rw [List.foldr_append]
    exact ⟨hPiece, hPieceTail.trans hRestTail⟩

end

end Building

/-- The forest of a sequence of events that starts with those of some content and then of other
content holds the one and, behind it, the other. -/
theorem holds_ofEvents {events : Events} {first second : List Content} {after : List Event}
    (h : events.items.map (·.event)
      = Content.eventsAll first ++ Content.eventsAll second ++ after) :
    ∃ middle rest, Holds (ofEvents events) first middle ∧ Holds middle second rest := by
  obtain ⟨front, others, hItems, hFront, -⟩ := List.map_eq_append_iff.mp h
  obtain ⟨a, b, rfl, hA, hB⟩ := List.map_eq_append_iff.mp hFront
  -- from the back again: the second content goes in front of the rest, the first in front of both
  obtain ⟨hSecond, -⟩ := @holds_pieces events.ending second b hB
    (others.foldr (graft events.ending) [])
  obtain ⟨hFirst, -⟩ := @holds_pieces events.ending first a hA
    (b.foldr (graft events.ending) (others.foldr (graft events.ending) []))
  rw [ofEvents, hItems, List.foldr_append, List.foldr_append]
  exact ⟨_, _, hFirst, hSecond⟩

/-- Behind a start tag stands the content up to the end tag; together they are an element in front
of what follows. -/
theorem holds_inside {content : List Content} {inside : List Item} {close : Item} {name : Bytes}
    (hInside : inside.map (·.event) = Content.eventsAll content) (hClose : close.event = .close name)
    (tag : Tag) (position : Nat) (after : Events) :
    let events : Events := ⟨inside ++ [close] ++ after.items, after.ending⟩
    Holds (ofEvents events) content (.closed close.position) ∧
      ofEvents ⟨⟨.start tag, position⟩ :: events.items, events.ending⟩
        = .element tag position (ofEvents events) (ofEvents after) := by
  intro events
  let outer := after.items.foldr (graft after.ending) []
  have hClosed : graft after.ending close outer = .closed close.position :: outer := by
    simp only [graft, hClose]
  have hLevels : events.items.foldr (graft events.ending) []
      = inside.foldr (graft after.ending) (.closed close.position :: outer) := by
    rw [List.foldr_append, List.foldr_append, List.foldr_cons, List.foldr_nil, hClosed]
  -- the end tag opens a level of its own, which the content fills and the start tag takes
  obtain ⟨hContent, hTail⟩ :=
    @holds_pieces after.ending content inside hInside (.closed close.position :: outer)
  rw [ofEvents, ofEvents, List.foldr_cons, hLevels]
  refine ⟨hContent, ?_⟩
  simp only [graft, hTail, List.tail_cons, List.headD_cons]
  rfl

end Forest

end Linguist.Xml
