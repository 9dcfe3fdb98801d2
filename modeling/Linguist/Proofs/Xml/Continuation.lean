import Linguist.Proofs.Xml.Lexing

/-!
# Linguist — documents that go on

The walk over a document never looks ahead, so more bytes behind a document
leave everything that was complete as it was: each element whose end tag was
read, with all its content and all positions. Only the elements that were still
open and the character data at the very end can become something else.

* `Forest.Continues` — levels that agree as far as the first one is complete.
* `ContinueLevels.graft` — one event in front of levels that go on.
* `Continues.eq_of_complete` — a level with an end tag is the same in both.
* `Forest.continues_ofBytes` — the forest of a document goes on in that of a longer one.
-/

namespace Linguist.Xml

namespace Forest

/-! ## Levels that go on -/

/-- The second level is the first one as far as that is complete. It holds anything where the first
one is cut off, and in place of character data in front of the cut, which may go on too. -/
inductive Continues : Forest → Forest → Prop
  | stop (ending : Ending) (b : Forest) : Continues (.stop ending) b
  | lastText (raw : Bytes) (ending : Ending) (b : Forest) : Continues (.text raw (.stop ending)) b
  | closed (position : Nat) : Continues (.closed position) (.closed position)
  | text {a b : Forest} (raw : Bytes) : Continues a b → Continues (.text raw a) (.text raw b)
  | cdata {a b : Forest} (raw : Bytes) : Continues a b → Continues (.cdata raw a) (.cdata raw b)
  | empty {a b : Forest} (tag : Tag) (position : Nat) :
      Continues a b → Continues (.empty tag position a) (.empty tag position b)
  | element {a b : Forest} (tag : Tag) (position : Nat) (body : Forest) :
      Continues a b → Continues (.element tag position body a) (.element tag position body b)
  /-- an element whose end tag was not read -/
  | unclosed {body body' : Forest} (tag : Tag) (position : Nat) (ending : Ending) (b : Forest) :
      Continues body body' →
      Continues (.element tag position body (.stop ending)) (.element tag position body' b)

namespace Continues

theorem refl (forest : Forest) : Continues forest forest := by
  induction forest with
  | closed position => exact .closed position
  | stop ending => exact .stop ending _
  | text raw _ ih => exact .text raw ih
  | cdata raw _ ih => exact .cdata raw ih
  | empty tag position _ ih => exact .empty tag position ih
  | element tag position body _ _ ih => exact .element tag position body ih

/-- A level that has its end tag is complete, and so are the elements in it. -/
theorem eq_of_complete {a b : Forest} (h : Continues a b) (hComplete : a.stopped? = none) :
    a = b := by
  induction h with
  | stop => exact absurd hComplete (by simp [stopped?])
  | lastText => exact absurd hComplete (by simp [stopped?])
  | closed => rfl
  | text raw _ ih => rw [ih hComplete]
  | cdata raw _ ih => rw [ih hComplete]
  | empty tag position _ ih => rw [ih hComplete]
  | element tag position body _ ih => rw [ih hComplete]
  | unclosed => exact absurd hComplete (by simp [stopped?])

end Continues

variable {ending ending' : Ending}

/-- The levels still to be read, innermost first: the complete ones are the same, and behind them
there is at most one more, which goes on. -/
inductive ContinueLevels (ending ending' : Ending) : List Forest → List Forest → Prop
  | cut {levels levels' : List Forest} :
      levels.tail = [] → Continues (here ending levels) (here ending' levels') →
      ContinueLevels ending ending' levels levels'
  | complete {levels levels' : List Forest} (level : Forest) :
      ContinueLevels ending ending' levels levels' →
      ContinueLevels ending ending' (level :: levels) (level :: levels')

theorem ContinueLevels.head {levels levels' : List Forest}
    (h : ContinueLevels ending ending' levels levels') :
    Continues (here ending levels) (here ending' levels') := by
  cases h with
  | cut _ hHere => exact hHere
  | complete level => exact .refl level

/-- What is put in front of the innermost level alone lets the levels go on. -/
theorem ContinueLevels.replace {levels levels' : List Forest} {f : Forest → Forest}
    (h : ContinueLevels ending ending' levels levels')
    (hFront : ∀ a b, Continues a b → Continues (f a) (f b)) :
    ContinueLevels ending ending' (f (here ending levels) :: levels.tail)
      (f (here ending' levels') :: levels'.tail) := by
  cases h with
  | cut hTail hHere => exact .cut hTail (hFront _ _ hHere)
  | complete level hOuter => exact .complete (f level) hOuter

/-- An event in front lets the levels go on. -/
theorem ContinueLevels.graft {levels levels' : List Forest}
    (h : ContinueLevels ending ending' levels levels') (item : Item) :
    ContinueLevels ending ending' (Forest.graft ending item levels)
      (Forest.graft ending' item levels') := by
  obtain ⟨event, position⟩ := item
  cases event with
  | text raw => exact h.replace fun _ _ => .text raw
  | cdata raw => exact h.replace fun _ _ => .cdata raw
  | empty tag => exact h.replace fun _ _ => .empty tag position
  | comment raw | instruction raw | doctype raw => exact h
  | close name => exact .complete (.closed position) h
  | start tag =>
    cases h with
    | cut hTail hHere =>
      -- the element was still open, so nothing was read behind it
      refine .cut ?_ ?_
      · show levels.tail.tail = []
        rw [hTail]
        rfl
      · show Continues (.element tag position (here ending levels) (here ending levels.tail)) _
        rw [hTail]
        exact .unclosed tag position ending _ hHere
    | complete level hOuter => exact hOuter.replace fun _ _ => .element tag position level

end Forest

/-! ## The walk over a document that goes on -/

/-- Sequences of events whose levels go on. -/
def Events.Continues (a b : Events) : Prop :=
  Forest.ContinueLevels a.ending b.ending
    (a.items.foldr (Forest.graft a.ending) []) (b.items.foldr (Forest.graft b.ending) [])

theorem Events.continues_stop (ending : Ending) (b : Events) : Continues ⟨[], ending⟩ b :=
  .cut rfl (.stop ending _)

namespace Lexer

/-- More bytes let the events go on. -/
theorem continues_eventsFrom (bytes more : Bytes) (opened : List Bytes) (offset : Nat)
    (state : State) :
    Events.Continues (eventsFrom opened offset state bytes)
      (eventsFrom opened offset state (bytes ++ more)) := by
  induction bytes generalizing opened offset state with
  | nil =>
    rw [eventsFrom]
    cases hFinish : state.finish with
    | error fault => exact Events.continues_stop _ _
    | ok event? =>
      cases event? with
      | none => exact Events.continues_stop _ _
      | some event =>
        obtain ⟨run, rfl⟩ := exists_text_of_finish hFinish
        exact .cut rfl (.lastText run _ _)
  | cons b bytes ih =>
    rw [List.cons_append, eventsFrom, eventsFrom]
    cases state.next b with
    | error fault => exact Events.continues_stop _ _
    | ok result =>
      obtain ⟨_ | event, state⟩ := result
      · exact ih opened (offset + 1) state
      · dsimp only
        cases nest opened event with
        | error fault => exact Events.continues_stop _ _
        | ok opened => exact (ih opened (offset + 1) state).graft ⟨event, offset + 1⟩

end Lexer

/-! ## Documents -/

/-- **The forest of a document goes on in the forest of a longer one.** A bracket keeps the longer
one from starting with a mark that the document does not have. -/
theorem Forest.continues_ofBytes {bytes : Bytes} (h : 0x3C ∈ bytes) (more : Bytes) :
    Continues (ofBytes bytes) (ofBytes (bytes ++ more)) := by
  obtain ⟨before, rest, rfl⟩ := List.append_of_mem h
  have hMark : dropMark (before ++ 0x3C :: rest ++ more)
      = dropMark (before ++ 0x3C :: rest) ++ more := by
    rw [List.append_assoc, List.cons_append, dropMark_append, dropMark_append, List.append_assoc,
      List.cons_append]
  unfold ofBytes Events.ofBytes
  rw [hMark]
  exact (Lexer.continues_eventsFrom _ more [] 0 .fresh).head

/-- A document without a bracket is character data. -/
theorem Forest.ofBytes_of_no_bracket {bytes : Bytes} (h : 0x3C ∉ bytes) :
    ∃ position, ofBytes bytes = .stop (.eof position) ∨
      ∃ raw, ofBytes bytes = .text raw (.stop (.eof position)) := by
  have hBytes : 0x3C ∉ dropMark bytes := fun hBracket => h ((dropMark_suffix bytes).mem hBracket)
  have hFeed : Lexer.feed ⟨[], .text []⟩ (dropMark bytes)
      = some ([], ⟨[], .text ((dropMark bytes).reverse ++ [])⟩) := Lexer.feed_characters hBytes
  obtain ⟨items, hItems, hEvents⟩ := Lexer.exists_eventsFrom_of_feed hFeed 0 []
  obtain rfl := List.map_eq_nil_iff.mp hItems
  rw [List.append_nil, Lexer.eventsFrom, Lexer.State.finish] at hEvents
  refine ⟨0 + (dropMark bytes).length, ?_⟩
  unfold ofBytes Events.ofBytes Lexer.State.fresh
  rw [hEvents]
  -- what was collected is one run, if it is any
  by_cases hRun : ((dropMark bytes).reverse ++ []).isEmpty = true
  · rw [if_pos hRun]
    exact .inl rfl
  · rw [if_neg hRun]
    exact .inr ⟨_, rfl⟩

end Linguist.Xml
