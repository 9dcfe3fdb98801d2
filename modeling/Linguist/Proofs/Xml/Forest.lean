import Linguist.Xml.Event

/-!
# Linguist — documents as forests

The events of a document, folded from the right, give the elements with their
content. Every level of the forest says how it ends: by the end tag of the
element around it, or where the document stops. So a document that is cut off is
a forest like any other, and whoever reads it from the left meets the stop where
a reader of the events would.

* `Forest.ofEvents` builds the forest; comments, instructions and document types are left out.
* `Forest.stopped?` tells whether a level is cut off.
-/

namespace Linguist.Xml

/-- The rest of a level: what stands first in it and what follows. -/
inductive Forest where
  /-- the end tag of the element around this level, read up to `position` -/
  | closed (position : Nat)
  | stop (ending : Ending)
  | text (raw : Bytes) (rest : Forest)
  | cdata (raw : Bytes) (rest : Forest)
  | empty (tag : Tag) (position : Nat) (rest : Forest)
  /-- an element whose start tag ended at `position` -/
  | element (tag : Tag) (position : Nat) (body rest : Forest)
  deriving Repr, DecidableEq

namespace Forest

/-- Where a level is cut off, unless it has an end tag. -/
def stopped? : Forest → Option Ending
  | .closed _ => none
  | .stop ending => some ending
  | .text _ rest | .cdata _ rest | .empty _ _ rest | .element _ _ _ rest => rest.stopped?

/-- Puts an event in front of the levels that follow it, innermost first. Levels beyond the
list are cut off at `ending`. -/
def graft (ending : Ending) (item : Item) (levels : List Forest) : List Forest :=
  let here := levels.headD (.stop ending)
  let outer := levels.tail
  match item.event with
  | .text raw => .text raw here :: outer
  | .cdata raw => .cdata raw here :: outer
  | .empty tag => .empty tag item.position here :: outer
  | .start tag => .element tag item.position here (outer.headD (.stop ending)) :: outer.tail
  | .close _ => .closed item.position :: levels
  | .comment _ | .instruction _ | .doctype _ => levels

/-- The forest of a sequence of events. -/
def ofEvents (events : Events) : Forest :=
  (events.items.foldr (graft events.ending) []).headD (.stop events.ending)

/-- The forest of a document. -/
def ofBytes (bytes : Bytes) : Forest :=
  ofEvents (Events.ofBytes bytes)

end Forest

end Linguist.Xml
