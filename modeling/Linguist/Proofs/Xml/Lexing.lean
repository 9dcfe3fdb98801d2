import Linguist.Proofs.Xml.Attribute
import Linguist.Proofs.Xml.Nesting

/-!
# Linguist — written elements are read as events

The walk over a document can be cut anywhere: what some bytes yield depends only
on where the walk stands in front of them, and where it stands behind them is all
that the rest depends on. From this the events of written nodes are put together,
one lemma for each thing that is written.

* `Lexer.feed` — the events some bytes yield, and where the walk stands then.
* `feed_append` / `exists_eventsFrom_of_feed` — bytes in a row; bytes in front of a document's rest.
* `feed_startTag` / `feed_emptyTag` / `feed_endTag` — written tags yield one event each.
* `exists_holds_of_feed` — what is written between two tags is the content of an element.
-/

namespace Linguist.Xml

namespace Lexer

/-! ## Where the walk stands -/

/-- The open elements, innermost first, and the state of the walk. -/
structure Front where
  opened : List Bytes
  state : State

/-- One byte. -/
def Front.next (front : Front) (b : UInt8) : Option (List Event × Front) :=
  match front.state.next b with
  | .error _ => none
  | .ok (none, state) => some ([], ⟨front.opened, state⟩)
  | .ok (some event, state) =>
    match nest front.opened event with
    | .error _ => none
    | .ok opened => some ([event], ⟨opened, state⟩)

/-- The events of some bytes and where the walk stands behind them, if there is no fault. -/
def feed (front : Front) : Bytes → Option (List Event × Front)
  | [] => some ([], front)
  | b :: rest => do
    let (first, front) ← front.next b
    let (others, front) ← feed front rest
    return (first ++ others, front)

/-- One byte in front of others. -/
theorem feed_cons {front middle last : Front} {b : UInt8} {xs : Bytes} {first others : List Event}
    (hFirst : front.next b = some (first, middle))
    (hOthers : feed middle xs = some (others, last)) :
    feed front (b :: xs) = some (first ++ others, last) := by
  rw [feed, hFirst]
  simp [hOthers]

/-- The first byte of some that were read without a fault. -/
theorem exists_of_feed_cons {front last : Front} {b : UInt8} {xs : Bytes} {events : List Event}
    (h : feed front (b :: xs) = some (events, last)) :
    ∃ first middle others, front.next b = some (first, middle) ∧
      feed middle xs = some (others, last) ∧ events = first ++ others := by
  rw [feed] at h
  obtain ⟨⟨first, middle⟩, hFirst, h⟩ := Option.bind_eq_some_iff.mp h
  obtain ⟨⟨others, last'⟩, hOthers, h⟩ := Option.bind_eq_some_iff.mp h
  simp only [pure, Option.some.injEq, Prod.mk.injEq] at h
  obtain ⟨rfl, rfl⟩ := h
  exact ⟨first, middle, others, hFirst, hOthers, rfl⟩

/-- Bytes that follow each other. -/
theorem feed_append {front middle last : Front} {xs ys : Bytes} {first others : List Event}
    (hFirst : feed front xs = some (first, middle))
    (hOthers : feed middle ys = some (others, last)) :
    feed front (xs ++ ys) = some (first ++ others, last) := by
  induction xs generalizing front first with
  | nil =>
    simp only [feed, Option.some.injEq, Prod.mk.injEq] at hFirst
    obtain ⟨rfl, rfl⟩ := hFirst
    exact hOthers
  | cons b xs ih =>
    obtain ⟨head, front', tail, hHead, hTail, rfl⟩ := exists_of_feed_cons hFirst
    rw [List.cons_append, List.append_assoc]
    exact feed_cons hHead (ih hTail)

/-- The events of a document from a byte that is no fault. -/
theorem eventsFrom_cons {front next : Front} {b : UInt8} {events : List Event}
    (h : front.next b = some (events, next)) (offset : Nat) (rest : Bytes) :
    eventsFrom front.opened offset front.state (b :: rest)
      = let after := eventsFrom next.opened (offset + 1) next.state rest
        ⟨events.map (⟨·, offset + 1⟩) ++ after.items, after.ending⟩ := by
  -- the three things a byte can do: fail, yield nothing, yield an event that fits the nesting
  unfold Front.next at h
  cases hState : front.state.next b with
  | error fault =>
    rw [hState] at h
    exact absurd h (by simp)
  | ok result =>
    rw [hState] at h
    obtain ⟨_ | event, state⟩ := result
    · simp only [Option.some.injEq, Prod.mk.injEq] at h
      obtain ⟨rfl, rfl⟩ := h
      rw [eventsFrom, hState]
      rfl
    · cases hNest : nest front.opened event with
      | error fault => exact absurd h (by simp [hNest])
      | ok opened =>
        simp only [hNest, Option.some.injEq, Prod.mk.injEq] at h
        obtain ⟨rfl, rfl⟩ := h
        rw [eventsFrom, hState]
        simp only [hNest]
        rfl

/-- The items of a document that starts with bytes that yield some events. -/
theorem exists_eventsFrom_of_feed {front last : Front} {xs : Bytes} {events : List Event}
    (h : feed front xs = some (events, last)) (offset : Nat) (rest : Bytes) :
    ∃ items : List Item, items.map (·.event) = events ∧
      eventsFrom front.opened offset front.state (xs ++ rest)
        = let after := eventsFrom last.opened (offset + xs.length) last.state rest
          ⟨items ++ after.items, after.ending⟩ := by
  -- the walk and the offset both move on, and neither is known in front of the next byte
  induction xs generalizing front offset events with
  | nil =>
    simp only [feed, Option.some.injEq, Prod.mk.injEq] at h
    obtain ⟨rfl, rfl⟩ := h
    exact ⟨[], rfl, rfl⟩
  | cons b xs ih =>
    obtain ⟨first, middle, others, hFirst, hOthers, rfl⟩ := exists_of_feed_cons h
    obtain ⟨items, hItems, hAfter⟩ := ih hOthers (offset + 1)
    refine ⟨first.map (⟨·, offset + 1⟩) ++ items, ?_, ?_⟩
    · rw [List.map_append, hItems, List.map_map]
      exact congrArg (· ++ others) (List.map_id first)
    · rw [List.cons_append, eventsFrom_cons hFirst, hAfter]
      simp [Nat.add_assoc, Nat.add_comm 1]

/-- At the end of a document there may be character data behind the last tag, and nothing else. -/
theorem exists_text_of_finish {state : State} {event : Event} (h : state.finish = .ok (some event)) :
    ∃ run, event = .text run := by
  cases state with
  | text run =>
    rw [State.finish] at h
    split at h
    · cases h
    · exact ⟨_, (Option.some.inj (Except.ok.inj h)).symm⟩
  | _ => simp [State.finish] at h

/-! ## Runs of bytes -/

section Runs

variable {opened : List Bytes} {content : Bytes}

/-- Bytes that are collected one after the other, each behind those in front of it. -/
theorem feed_collect (state : Bytes → State) {xs : Bytes}
    (h : ∀ before b after, xs = before ++ b :: after →
      Front.next ⟨opened, state (before.reverse ++ content)⟩ b
        = some ([], ⟨opened, state (b :: (before.reverse ++ content))⟩)) :
    feed ⟨opened, state content⟩ xs = some ([], ⟨opened, state (xs.reverse ++ content)⟩) := by
  induction xs generalizing content with
  | nil => rfl
  | cons b xs ih =>
    have hOthers : ∀ before d after, xs = before ++ d :: after →
        Front.next ⟨opened, state (before.reverse ++ b :: content)⟩ d
          = some ([], ⟨opened, state (d :: (before.reverse ++ b :: content))⟩) := by
      intro before d after hSplit
      simpa using h (b :: before) d after (by rw [hSplit, List.cons_append])
    have hFirst : Front.next ⟨opened, state content⟩ b = some ([], ⟨opened, state (b :: content)⟩) :=
      h [] b xs rfl
    rw [feed_cons hFirst (ih hOthers)]
    simp

/-- Bytes that are collected wherever they stand. -/
theorem feed_run (state : Bytes → State) {xs : Bytes}
    (h : ∀ b ∈ xs, ∀ content, Front.next ⟨opened, state content⟩ b
      = some ([], ⟨opened, state (b :: content)⟩)) :
    feed ⟨opened, state content⟩ xs = some ([], ⟨opened, state (xs.reverse ++ content)⟩) :=
  feed_collect state fun before b after hSplit => h b (by simp [hSplit]) _

/-- Character data up to the next bracket. -/
theorem feed_characters {xs : Bytes} (h : 0x3C ∉ xs) :
    feed ⟨opened, .text content⟩ xs = some ([], ⟨opened, .text (xs.reverse ++ content)⟩) := by
  apply feed_run .text
  intro b hb content
  have hOpen : b ≠ 0x3C := fun hBracket => h (hBracket ▸ hb)
  simp [Front.next, State.next, hOpen]

/-- Character data up to the next tag. -/
theorem feed_text {xs : Bytes} (h : ∀ b ∈ xs, isMark b = false) :
    feed ⟨opened, .text content⟩ xs = some ([], ⟨opened, .text (xs.reverse ++ content)⟩) :=
  feed_characters fun hBracket => absurd (h _ hBracket) (by decide)

/-- Bytes of a tag outside quotes. -/
theorem feed_unquoted {xs : Bytes} (h : ∀ b ∈ xs, isMark b = false) :
    feed ⟨opened, .tag none content⟩ xs
      = some ([], ⟨opened, .tag none (xs.reverse ++ content)⟩) := by
  apply feed_run (.tag none)
  intro b hb content
  have hMark := h b hb
  unfold isMark at hMark
  simp only [Bool.or_eq_false_iff, beq_eq_false_iff_ne] at hMark
  simp [Front.next, State.next, tagNext, hMark]

/-- Bytes of a tag inside quotes. -/
theorem feed_quoted {xs : Bytes} (h : ∀ b ∈ xs, isMark b = false) :
    feed ⟨opened, .tag (some 0x22) content⟩ xs
      = some ([], ⟨opened, .tag (some 0x22) (xs.reverse ++ content)⟩) := by
  apply feed_run (.tag (some 0x22))
  intro b hb content
  have hQuote : b ≠ 0x22 := by
    rintro rfl
    exact absurd (h _ hb) (by decide)
  simp [Front.next, State.next, tagNext, hQuote]

end Runs

/-! ## Tags -/

section Tags

variable {opened : List Bytes} {content : Bytes} {name : String}
  {attributes : List (String × String)}

theorem isMark_of_mem_encode_word (hName : IsWord name) :
    ∀ b ∈ Utf8.encode name, isMark b = false := fun b hb =>
  (ne_of_isLetter (hName.letters b hb)).2.1

/-- A written attribute stays inside the tag and leaves the walk outside quotes. -/
theorem feed_renderAttribute {value : String} (hName : IsWord name) :
    feed ⟨opened, .tag none content⟩ (Utf8.encode (renderAttribute (name, value)))
      = some ([], ⟨opened, .tag none
          ((Utf8.encode (renderAttribute (name, value))).reverse ++ content)⟩) := by
  -- the blank, the key and the equals sign are no marks, and so they stay outside quotes
  have hKey : ∀ b ∈ 0x20 :: Utf8.encode name ++ [0x3D], isMark b = false := by
    intro b hb
    simp only [List.cons_append, List.mem_cons, List.mem_append, List.not_mem_nil, or_false] at hb
    rcases hb with rfl | hb | rfl
    · rfl
    · exact isMark_of_mem_encode_word hName b hb
    · rfl
  -- the two quotes are the only marks: the one opens the value, the other closes it
  have hOpen : ∀ before, feed ⟨opened, .tag none before⟩ [0x22]
      = some ([], ⟨opened, .tag (some 0x22) (0x22 :: before)⟩) := fun _ => rfl
  have hClose : ∀ before, feed ⟨opened, .tag (some 0x22) before⟩ [0x22]
      = some ([], ⟨opened, .tag none (0x22 :: before)⟩) := fun _ => rfl
  have hValue : ∀ b ∈ Utf8.encode (escape value), isMark b = false := fun b hb =>
    isMark_of_mem_encode_escape hb
  -- four runs in a row, told apart by whether they are quoted
  have hSplit : Utf8.encode (renderAttribute (name, value))
      = ((0x20 :: Utf8.encode name ++ [0x3D]) ++ [0x22])
        ++ Utf8.encode (escape value) ++ [0x22] := by
    rw [Attributes.encode_renderAttribute]
    simp
  rw [hSplit]
  rw [feed_append (feed_append (feed_append (feed_unquoted hKey) (hOpen _)) (feed_quoted hValue))
    (hClose _)]
  simp

/-- So do all written attributes. -/
theorem feed_renderAttributes (hWritable : AreWritable attributes) :
    feed ⟨opened, .tag none content⟩
        (Utf8.encode (String.join (attributes.map renderAttribute)))
      = some ([], ⟨opened, .tag none
          ((Utf8.encode (String.join (attributes.map renderAttribute))).reverse ++ content)⟩) := by
  induction attributes generalizing content with
  | nil =>
    rw [List.map_nil, String.join_nil]
    rfl
  | cons pair attributes ih =>
    rw [List.map_cons, String.join_cons, Utf8.encode_append]
    rw [feed_append (feed_renderAttribute (hWritable.words _ List.mem_cons_self))
      (ih hWritable.tail)]
    simp

/-- The content of a written tag, from its first byte on. -/
theorem feed_renderTag (hName : IsWord name) (hWritable : AreWritable attributes) :
    feed ⟨opened, .opened⟩ (Utf8.encode (renderTag name attributes))
      = some ([], ⟨opened, .tag none (Utf8.encode (renderTag name attributes)).reverse⟩) := by
  obtain ⟨first, letters, hSplit, hLetter, hOthers⟩ := hName.exists_first
  obtain ⟨-, hMark, -, -, hBang, hQuery⟩ := ne_of_isLetter hLetter
  unfold isMark at hMark
  simp only [Bool.or_eq_false_iff, beq_eq_false_iff_ne] at hMark
  -- the first byte decides what kind of tag it is; a letter makes a plain one
  have hFirst : Front.next ⟨opened, .opened⟩ first = some ([], ⟨opened, .tag none [first]⟩) := by
    simp [Front.next, State.next, tagNext, hBang, hQuery, hMark]
  have hLetters : ∀ b ∈ letters, isMark b = false := fun b hb =>
    (ne_of_isLetter (hOthers b hb)).2.1
  rw [renderTag, Utf8.encode_append, hSplit]
  have h := feed_append (feed_cons hFirst (feed_unquoted hLetters))
    (feed_renderAttributes hWritable)
  rw [h]
  simp

/-- A written tag does not start with a slash. -/
theorem exists_first_renderTag (hName : IsWord name) (attributes : List (String × String)) :
    ∃ first rest, Utf8.encode (renderTag name attributes) = first :: rest ∧ first ≠ 0x2F := by
  obtain ⟨first, letters, hSplit, hLetter, -⟩ := hName.exists_first
  obtain ⟨-, -, -, hSlash, -⟩ := ne_of_isLetter hLetter
  refine ⟨first, letters ++ Utf8.encode (String.join (attributes.map renderAttribute)), ?_, hSlash⟩
  rw [renderTag, Utf8.encode_append, hSplit, List.cons_append]

/-- Nor does it end with one: it ends with a letter or a quote. -/
theorem exists_last_renderTag (hName : IsWord name) (attributes : List (String × String)) :
    ∃ before last, Utf8.encode (renderTag name attributes) = before ++ [last] ∧ last ≠ 0x2F := by
  rw [renderTag, Utf8.encode_append]
  rcases List.eq_nil_or_concat attributes with rfl | ⟨others, ⟨key, value⟩, rfl⟩
  · obtain ⟨before, last, hSplit, hLetter⟩ := hName.exists_last
    obtain ⟨-, -, -, hSlash, -⟩ := ne_of_isLetter hLetter
    refine ⟨before, last, ?_, hSlash⟩
    rw [hSplit, List.map_nil, String.join_nil]
    exact List.append_nil _
  · -- behind the last attribute stands the quote that closes its value
    refine ⟨Utf8.encode name ++ (Utf8.encode (String.join (others.map renderAttribute))
      ++ 0x20 :: Utf8.encode key ++ 0x3D :: 0x22 :: Utf8.encode (escape value)), 0x22, ?_,
      by decide⟩
    rw [List.concat_eq_append, List.map_append, String.join_append, Utf8.encode_append,
      List.map_singleton, String.join_cons, String.join_nil, String.append_empty,
      Attributes.encode_renderAttribute]
    simp

/-- The event of a written start tag. -/
theorem tagEvent_renderTag (hName : IsWord name) :
    tagEvent (Utf8.encode (renderTag name attributes)) = .start (Tag.ofName name attributes) := by
  obtain ⟨first, rest, hFirst, hNoClose⟩ := exists_first_renderTag hName attributes
  obtain ⟨before, last, hLast, hNoEmpty⟩ := exists_last_renderTag hName attributes
  have hReverse : (Utf8.encode (renderTag name attributes)).reverse = last :: before.reverse := by
    rw [hLast]
    simp
  -- neither a closing slash in front nor one that makes the element empty
  unfold tagEvent
  split
  · simp_all
  · rw [hReverse]
    split
    · simp_all
    · rfl

/-- The event of a written self-closed tag. -/
theorem tagEvent_renderTag_slash (hName : IsWord name) :
    tagEvent (Utf8.encode (renderTag name attributes) ++ [0x2F])
      = .empty (Tag.ofName name attributes) := by
  obtain ⟨first, rest, hFirst, hNoClose⟩ := exists_first_renderTag hName attributes
  unfold tagEvent
  split
  · simp_all
  · rw [List.reverse_append]
    simp [Tag.ofName]

/-- The name in a written end tag. -/
theorem closingName_word (hName : IsWord name) :
    closingName (Utf8.encode name) = Utf8.encode name := by
  obtain ⟨before, last, hSplit, hLetter⟩ := hName.exists_last
  obtain ⟨hBlank, -⟩ := ne_of_isLetter hLetter
  rw [hSplit, closingName]
  simp [hBlank]

/-- A written start tag opens its element. -/
theorem feed_startTag (hName : IsWord name) (hWritable : AreWritable attributes) :
    feed ⟨opened, .opened⟩ (Utf8.encode (renderTag name attributes) ++ [0x3E])
      = some ([.start (Tag.ofName name attributes)], ⟨Utf8.encode name :: opened, .fresh⟩) := by
  have hEnd : feed ⟨opened, .tag none (Utf8.encode (renderTag name attributes)).reverse⟩ [0x3E]
      = some ([.start (Tag.ofName name attributes)], ⟨Utf8.encode name :: opened, .fresh⟩) := by
    simp [feed, Front.next, State.next, tagNext, tagEvent_renderTag hName, nest,
      name_ofName hName]
  exact feed_append (feed_renderTag hName hWritable) hEnd

/-- A written self-closed tag. -/
theorem feed_emptyTag (hName : IsWord name) (hWritable : AreWritable attributes) :
    feed ⟨opened, .opened⟩ (Utf8.encode (renderTag name attributes) ++ [0x2F, 0x3E])
      = some ([.empty (Tag.ofName name attributes)], ⟨opened, .fresh⟩) := by
  have hEnd : feed ⟨opened, .tag none (Utf8.encode (renderTag name attributes)).reverse⟩
        [0x2F, 0x3E]
      = some ([.empty (Tag.ofName name attributes)], ⟨opened, .fresh⟩) := by
    simp [feed, Front.next, State.next, tagNext, tagEvent_renderTag_slash hName, nest]
  exact feed_append (feed_renderTag hName hWritable) hEnd

/-- A written end tag closes the innermost element, which has its name. -/
theorem feed_endTag (hName : IsWord name) :
    feed ⟨Utf8.encode name :: opened, .opened⟩ (0x2F :: Utf8.encode name ++ [0x3E])
      = some ([.close (Utf8.encode name)], ⟨opened, .fresh⟩) := by
  -- the slash makes it an end tag, and the name behind it is a run without marks
  have hSlash : Front.next ⟨Utf8.encode name :: opened, .opened⟩ 0x2F
      = some ([], ⟨Utf8.encode name :: opened, .tag none [0x2F]⟩) := rfl
  have hEnd : feed ⟨Utf8.encode name :: opened,
        .tag none ((Utf8.encode name).reverse ++ [0x2F])⟩ [0x3E]
      = some ([.close (Utf8.encode name)], ⟨opened, .fresh⟩) := by
    simp [feed, Front.next, State.next, tagNext, tagEvent, closingName_word hName, nest]
  exact feed_append (feed_cons hSlash (feed_unquoted (isMark_of_mem_encode_word hName))) hEnd

end Tags

end Lexer

/-! ## Elements -/

/-- Behind the start tag of an element stands the content that is written there, up to its end tag,
and then what follows the element: in the forest, and in the events that are left. -/
theorem exists_holds_of_feed {name : String} (hName : IsWord name) {opened : List Bytes}
    {written : String} {content : List Content}
    (hFeed : Lexer.feed ⟨Utf8.encode name :: opened, .fresh⟩ (Utf8.encode written ++ [0x3C])
      = some (Content.eventsAll content, ⟨Utf8.encode name :: opened, .opened⟩))
    (tag : Tag) (position offset : Nat) (rest : Bytes) :
    let inside := Utf8.encode (written ++ "</" ++ name ++ ">")
    let events := Lexer.eventsFrom (Utf8.encode name :: opened) offset .fresh (inside ++ rest)
    let after := Lexer.eventsFrom opened (offset + inside.length) .fresh rest
    (∃ close, Forest.Holds (Forest.ofEvents events) content (.closed close)) ∧
      Forest.ofEvents ⟨⟨.start tag, position⟩ :: events.items, events.ending⟩
        = .element tag position (Forest.ofEvents events) (Forest.ofEvents after) ∧
      Forest.beyond 0 events.items = after.items := by
  intro inside events after
  have hInside : inside = (Utf8.encode written ++ [0x3C])
      ++ (0x2F :: Utf8.encode name ++ [0x3E]) := by
    have hEnd : Utf8.encode "</" = [0x3C, 0x2F] := rfl
    have hClose : Utf8.encode ">" = [0x3E] := rfl
    simp [inside, hEnd, hClose]
  have hElement : Lexer.feed ⟨Utf8.encode name :: opened, .fresh⟩ inside
      = some (Content.eventsAll content ++ [.close (Utf8.encode name)], ⟨opened, .fresh⟩) := by
    rw [hInside]
    exact Lexer.feed_append hFeed (Lexer.feed_endTag hName)
  obtain ⟨items, hItems, hEvents⟩ := Lexer.exists_eventsFrom_of_feed hElement offset rest
  obtain ⟨body, last, rfl, hBody, hLast⟩ := List.map_eq_append_iff.mp hItems
  obtain ⟨close, rfl, hClose⟩ := List.map_eq_singleton_iff.mp hLast
  obtain ⟨hHolds, hTree⟩ := Forest.holds_inside hBody hClose tag position after
  have hSplit : events = _ := hEvents
  rw [hSplit]
  exact ⟨⟨close.position, hHolds⟩, hTree, Forest.beyond_inside hBody hClose after.items⟩

/-! ## The start of a document -/

theorem dropMark_suffix (bytes : Bytes) : dropMark bytes <:+ bytes := by
  unfold dropMark
  split
  · exact ⟨[0xEF, 0xBB, 0xBF], rfl⟩
  · exact List.suffix_rfl

/-- A bracket keeps the bytes in front of it from being the start of a mark. -/
theorem dropMark_append (before rest : Bytes) :
    dropMark (before ++ 0x3C :: rest) = dropMark before ++ 0x3C :: rest := by
  match before with
  | [] | [_] | [_, _] => simp [dropMark]
  | a :: b :: c :: others =>
    by_cases hMark : a = 0xEF ∧ b = 0xBB ∧ c = 0xBF
    · obtain ⟨rfl, rfl, rfl⟩ := hMark
      rfl
    · have hNone : ∀ bytes, dropMark (a :: b :: c :: bytes) = a :: b :: c :: bytes := by
        intro bytes
        unfold dropMark
        split
        · simp_all
        · rfl
      rw [hNone, List.cons_append, List.cons_append, List.cons_append, hNone]

end Linguist.Xml
