import Linguist.Json.Decoder
import Linguist.Proofs.Json.Text
import Mathlib.Data.List.Forall2

/-!
# Linguist — written JSON values are read

What a decoder does depends on what stands ahead of it, blanks passed over, and
not on the layout. A decoder reads a value if it takes the text of the value, in
every layout and whatever follows, and no byte more. Lists are read if their
items are; the parts may stand on one line or each on its own.

* `Decoder.Gives` — one step of a decoder, `Decodes` — a decoder for a value.
* `decodes_string`, `decodes_true`, `Decodes.optional` — simple values.
* `decodes_list` — lists, item by item.
* `Decodes.run_eq` — a whole document.
-/

namespace Linguist.Json

/-- What stands ahead of a cursor once the blanks are passed over. -/
def Cursor.ahead (cursor : Cursor) : Bytes :=
  cursor.rest.dropWhile isAsciiBlank

/-- Whether bytes stand between the parts of a document and say nothing. -/
def AreBlank (bytes : Bytes) : Prop :=
  ∀ b ∈ bytes, isAsciiBlank b = true

/-- Whether bytes begin like a text, a list, an object or a truth value, and so neither with a blank
nor with a byte that stands between values. -/
def StartsValue (bytes : Bytes) : Prop :=
  ∃ b ∈ [0x22, 0x5B, 0x7B, 0x74, 0x66], bytes.head? = some b

/-! ## Blanks -/

theorem areBlank_nil : AreBlank [] := by
  intro b hb
  exact absurd hb List.not_mem_nil

theorem areBlank_lineBreak (layout : Layout) : AreBlank (Utf8.encode layout.lineBreak) := by
  cases layout with
  | compact => exact areBlank_nil
  | indented depth =>
    have hBytes : Utf8.encode (Layout.indented depth).lineBreak
        = 0x0A :: List.replicate (2 * depth) 0x20 := by
      have hBlank : Utf8.encodeChar ' ' = [0x20] := rfl
      simp [Layout.lineBreak, Utf8.encode, Utf8.encodeChars, List.flatMap_replicate, hBlank]
      rfl
    intro b hb
    rw [hBytes] at hb
    rcases List.mem_cons.mp hb with rfl | hb
    · decide
    · rw [List.eq_of_mem_replicate hb]
      decide

theorem dropWhile_append_of_areBlank {blanks : Bytes} (h : AreBlank blanks) (rest : Bytes) :
    (blanks ++ rest).dropWhile isAsciiBlank = rest.dropWhile isAsciiBlank := by
  induction blanks with
  | nil => rfl
  | cons b blanks ih =>
    rw [List.cons_append, List.dropWhile_cons_of_pos (h b List.mem_cons_self)]
    exact ih fun x hx => h x (List.mem_cons_of_mem b hx)

theorem StartsValue.exists_first {bytes : Bytes} (h : StartsValue bytes) :
    ∃ b others, bytes = b :: others ∧ isAsciiBlank b = false ∧ b ≠ 0x5D ∧ b ≠ 0x6E := by
  obtain ⟨b, hb, hHead⟩ := h
  obtain ⟨others, rfl⟩ := List.head?_eq_some_iff.mp hHead
  refine ⟨b, others, rfl, ?_⟩
  simp only [List.mem_cons, List.not_mem_nil, or_false] at hb
  rcases hb with rfl | rfl | rfl | rfl | rfl <;> decide

/-- What follows a value is ahead where the value was. -/
theorem Cursor.ahead_of_rest {cursor : Cursor} {blanks bytes rest : Bytes}
    (hRest : cursor.rest = blanks ++ (bytes ++ rest)) (hBlanks : AreBlank blanks)
    (hBytes : StartsValue bytes) : cursor.ahead = bytes ++ rest := by
  obtain ⟨b, others, rfl, hBlank, -⟩ := hBytes.exists_first
  rw [ahead, hRest, dropWhile_append_of_areBlank hBlanks, List.cons_append,
    List.dropWhile_cons_of_neg (by simp [hBlank])]

theorem Cursor.ahead_of_mark {cursor : Cursor} {blanks rest : Bytes} {b : UInt8}
    (hRest : cursor.rest = blanks ++ b :: rest) (hBlanks : AreBlank blanks)
    (hMark : isAsciiBlank b = false) : cursor.ahead = b :: rest := by
  rw [ahead, hRest, dropWhile_append_of_areBlank hBlanks,
    List.dropWhile_cons_of_neg (by simp [hMark])]

/-! ## Steps of a decoder -/

namespace Decoder

variable {α β : Type}

/-- Whether a decoder gives `a` at a cursor and stands at `after` then. -/
def Gives (decoder : Decoder α) (cursor : Cursor) (a : α) (after : Cursor) : Prop :=
  decoder cursor = .ok a after

theorem gives_pure (a : α) (cursor : Cursor) : Gives (pure a) cursor a cursor :=
  rfl

theorem Gives.bind {first : Decoder α} {second : α → Decoder β} {cursor middle after : Cursor}
    {a : α} {b : β} (hFirst : first.Gives cursor a middle)
    (hSecond : (second a).Gives middle b after) : (first >>= second).Gives cursor b after := by
  show EStateM.bind first second cursor = .ok b after
  unfold Gives at hFirst
  rw [EStateM.bind, hFirst]
  exact hSecond

theorem gives_skipBlanks {cursor : Cursor} {b : UInt8} {rest : Bytes}
    (h : cursor.ahead = b :: rest) : skipBlanks.Gives cursor (some b) ⟨b :: rest, true⟩ := by
  unfold Cursor.ahead at h
  rw [Gives, skipBlanks, peek, h]

theorem gives_start {cursor : Cursor} {b : UInt8} {rest : Bytes} (h : cursor.ahead = b :: rest) :
    start.Gives cursor b ⟨b :: rest, true⟩ :=
  (gives_skipBlanks h).bind (gives_pure b _)

theorem gives_eat (b : UInt8) (rest : Bytes) (peeked : Bool) :
    eat.Gives ⟨b :: rest, peeked⟩ () ⟨rest, false⟩ :=
  rfl

theorem gives_text (s : String) (rest : Bytes) (peeked : Bool) :
    text.Gives ⟨inside s ++ 0x22 :: rest, peeked⟩ s ⟨rest, false⟩ :=
  text_inside s rfl

theorem Gives.enclosed {body : Decoder α} {close : Decoder Unit} {cursor middle after : Cursor}
    {a : α} (hBody : body.Gives cursor a middle) (hClose : close.Gives middle () after) :
    (enclosed body close).Gives cursor a after := by
  unfold Gives at hBody hClose
  rw [Gives, Decoder.enclosed, hBody]
  dsimp only
  rw [hClose]

end Decoder

open Decoder

/-! ## Simple values -/

/-- Whether a decoder reads a value as `a`: it takes the text of the value and nothing else. -/
structure Decodes {α : Type} (decoder : Decoder α) (value : Value) (a : α) : Prop where
  starts : ∀ layout, StartsValue (Utf8.encode (value.render layout))
  reads : ∀ layout cursor rest, cursor.ahead = Utf8.encode (value.render layout) ++ rest →
    ∃ after, decoder.Gives cursor a after ∧ after.rest = rest

theorem decodes_string (s : String) : Decodes string (.text s) s where
  starts layout := by
    rw [Value.render, encode_quoted]
    exact ⟨0x22, by decide, rfl⟩
  reads layout cursor rest h := by
    have hAhead : cursor.ahead = 0x22 :: (inside s ++ 0x22 :: rest) := by
      rw [h, Value.render, encode_quoted]
      simp
    refine ⟨⟨rest, false⟩, (gives_start hAhead).bind ?_, rfl⟩
    exact (gives_eat _ _ _).bind (gives_text s rest false)

theorem decodes_true : Decodes boolean (.bool true) true where
  starts layout := by
    rw [Value.render]
    exact ⟨0x74, by decide, rfl⟩
  reads layout cursor rest h := by
    have hTrue : Utf8.encode "true" = [0x74, 0x72, 0x75, 0x65] := rfl
    rw [Value.render, hTrue] at h
    refine ⟨⟨rest, false⟩, (gives_start h).bind ?_, rfl⟩
    exact (gives_eat _ _ _).bind rfl

/-- A value that may be missing is read as it is, since it does not begin like `null`. -/
theorem Decodes.optional {α : Type} {decoder : Decoder α} {value : Value} {a : α}
    (h : Decodes decoder value a) : Decodes decoder.optional value (some a) where
  starts := h.starts
  reads layout cursor rest hAhead := by
    obtain ⟨b, others, hBytes, hBlank, -, hNull⟩ := (h.starts layout).exists_first
    have hFirst : cursor.ahead = b :: (others ++ rest) := by
      rw [hAhead, hBytes, List.cons_append]
    -- the byte is looked at and stays, so the value is read from here as from further back
    have hStays : (⟨b :: (others ++ rest), true⟩ : Cursor).ahead
        = Utf8.encode (value.render layout) ++ rest := by
      rw [hBytes]
      exact Cursor.ahead_of_mark rfl areBlank_nil hBlank
    obtain ⟨after, hRead, hRest⟩ := h.reads layout _ rest hStays
    refine ⟨after, (gives_skipBlanks hFirst).bind ?_, hRest⟩
    split
    · rename_i hEq
      exact absurd (Option.some.inj hEq) hNull
    · exact hRead.bind (gives_pure _ _)

/-! ## Lists -/

/-- What stands in front of an item or a member. -/
def separator (layout : Layout) (isFirst : Bool) : String :=
  (if isFirst then "" else ",") ++ layout.lineBreak

/-- The first of several parts is ahead once the blanks are passed over. -/
theorem Cursor.ahead_of_first {cursor : Cursor} {layout : Layout} {written rest : Bytes}
    (hStarts : StartsValue written)
    (hRest : cursor.rest = Utf8.encode (separator layout true) ++ (written ++ rest)) :
    cursor.ahead = written ++ rest := by
  refine ahead_of_rest ?_ (areBlank_lineBreak layout) hStarts
  rw [hRest]
  simp [separator]

/-- In front of every other part stands a comma, and behind the comma the part is ahead. -/
theorem Cursor.ahead_of_next {cursor : Cursor} {layout : Layout} {written rest : Bytes}
    (hStarts : StartsValue written)
    (hRest : cursor.rest = Utf8.encode (separator layout false) ++ (written ++ rest)) :
    ∃ others, cursor.ahead = 0x2C :: others ∧
      (⟨others, false⟩ : Cursor).ahead = written ++ rest := by
  have hComma : Utf8.encode "," = [0x2C] := rfl
  have hNext : cursor.rest = 0x2C :: (Utf8.encode layout.lineBreak ++ (written ++ rest)) := by
    rw [hRest]
    simp [separator, hComma]
  exact ⟨_, ahead_of_mark hNext areBlank_nil (by decide),
    ahead_of_rest rfl (areBlank_lineBreak layout) hStarts⟩

/-- Items of a list, each behind its separator. -/
def itemsText (layout : Layout) (isFirst : Bool) : List Value → String
  | [] => ""
  | item :: items =>
    separator layout isFirst ++ item.render layout ++ itemsText layout false items

theorem renderItems_eq (layout : Layout) (items : List Value) :
    renderItems layout items = itemsText layout false items := by
  induction items with
  | nil => rfl
  | cons item items ih =>
    rw [renderItems, itemsText, ih]
    simp [separator]

/-- Between its brackets a list holds the items and then blanks. -/
theorem encode_render_list (layout : Layout) (items : List Value) :
    ∃ blanks, AreBlank blanks ∧ Utf8.encode ((Value.list items).render layout)
      = 0x5B :: (Utf8.encode (itemsText layout.deeper true items) ++ (blanks ++ [0x5D])) := by
  have hOpen : Utf8.encode "[" = [0x5B] := rfl
  have hClose : Utf8.encode "]" = [0x5D] := rfl
  cases items with
  | nil => exact ⟨[], areBlank_nil, by rw [Value.render]; rfl⟩
  | cons item items =>
    refine ⟨Utf8.encode layout.lineBreak, areBlank_lineBreak layout, ?_⟩
    rw [Value.render, renderItems_eq, itemsText]
    simp [separator, hOpen, hClose]

namespace Decoder

variable {α : Type} {layout : Layout} {isFirst : Bool}

theorem gives_hasItem {cursor : Cursor} {written rest : Bytes} (hStarts : StartsValue written)
    (hRest : cursor.rest = Utf8.encode (separator layout isFirst) ++ (written ++ rest)) :
    (hasItem isFirst).Gives cursor true ⟨written ++ rest, true⟩ := by
  obtain ⟨b, others, hBytes, hBlank, hClose, -⟩ := hStarts.exists_first
  unfold hasItem
  cases isFirst with
  | true =>
    have hAhead := Cursor.ahead_of_first hStarts hRest
    rw [hBytes, List.cons_append] at hAhead ⊢
    refine (gives_skipBlanks hAhead).bind ?_
    split
    · simp_all
    · simp_all
    · exact gives_pure true _
  | false =>
    obtain ⟨behind, hAhead, hItem⟩ := Cursor.ahead_of_next hStarts hRest
    refine (gives_skipBlanks hAhead).bind ((gives_eat _ _ _).bind ?_)
    rw [hBytes, List.cons_append] at hItem ⊢
    refine (gives_skipBlanks hItem).bind ?_
    split
    · simp_all
    · exact gives_pure true _
    · simp_all

theorem gives_hasItem_end {cursor : Cursor} {blanks rest : Bytes} (hBlanks : AreBlank blanks)
    (hRest : cursor.rest = blanks ++ 0x5D :: rest) :
    (hasItem isFirst).Gives cursor false ⟨0x5D :: rest, true⟩ := by
  have hAhead : cursor.ahead = 0x5D :: rest := Cursor.ahead_of_mark hRest hBlanks (by decide)
  exact (gives_skipBlanks hAhead).bind (gives_pure false _)

theorem gives_closeList (rest : Bytes) (peeked : Bool) :
    closeList.Gives ⟨0x5D :: rest, peeked⟩ () ⟨rest, false⟩ := by
  have hAhead : (⟨0x5D :: rest, peeked⟩ : Cursor).ahead = 0x5D :: rest :=
    Cursor.ahead_of_mark rfl areBlank_nil (by decide)
  exact (gives_skipBlanks hAhead).bind (gives_eat _ _ _)

/-- The items of a list are read one after the other, up to the bracket. -/
theorem gives_items {item : Decoder α} {values : List Value} {as : List α} {blanks rest : Bytes}
    (h : List.Forall₂ (Decodes item) values as) (hBlanks : AreBlank blanks) {fuel : Nat}
    {cursor : Cursor} (hFuel : cursor.rest.length < fuel)
    (hRest : cursor.rest
      = Utf8.encode (itemsText layout isFirst values) ++ (blanks ++ 0x5D :: rest)) :
    (items item isFirst fuel).Gives cursor as ⟨0x5D :: rest, true⟩ := by
  -- an item takes a byte at least, so the bound stays above what is left
  induction h generalizing isFirst fuel cursor with
  | nil =>
    obtain ⟨fuel, rfl⟩ := Nat.exists_eq_add_one_of_ne_zero (Nat.ne_zero_of_lt hFuel)
    exact (gives_hasItem_end hBlanks hRest).bind (gives_pure [] _)
  | @cons value a values as hItem _ ih =>
    obtain ⟨fuel, rfl⟩ := Nat.exists_eq_add_one_of_ne_zero (Nat.ne_zero_of_lt hFuel)
    have hStarts := hItem.starts layout
    rw [itemsText, Utf8.encode_append, Utf8.encode_append, List.append_assoc,
      List.append_assoc] at hRest
    obtain ⟨after, hRead, hAfter⟩ := hItem.reads layout
      ⟨_, true⟩ _ (Cursor.ahead_of_rest rfl areBlank_nil hStarts)
    refine (gives_hasItem hStarts hRest).bind (hRead.bind ((ih ?_ hAfter).bind (gives_pure _ _)))
    obtain ⟨b, others, hBytes, -⟩ := hStarts.exists_first
    rw [hRest, hBytes] at hFuel
    rw [hAfter]
    simp only [List.length_append, List.length_cons] at hFuel ⊢
    omega

end Decoder

/-- A list is read if its items are. -/
theorem decodes_list {α : Type} {item : Decoder α} {values : List Value} {as : List α}
    (h : List.Forall₂ (Decodes item) values as) : Decodes (list item) (.list values) as where
  starts layout := by
    obtain ⟨blanks, -, hBytes⟩ := encode_render_list layout values
    rw [hBytes]
    exact ⟨0x5B, by decide, rfl⟩
  reads layout cursor rest hAhead := by
    obtain ⟨blanks, hBlanks, hBytes⟩ := encode_render_list layout values
    rw [hBytes, List.cons_append, List.append_assoc, List.append_assoc] at hAhead
    generalize hBody : Utf8.encode (itemsText layout.deeper true values)
      ++ (blanks ++ ([0x5D] ++ rest)) = body at hAhead
    refine ⟨⟨rest, false⟩, (gives_start hAhead).bind ((gives_eat _ _ _).bind ?_), rfl⟩
    -- as many bytes are left as the loop may take items, and one round more
    have hItems : (items item true (body.length + 1)).Gives ⟨body, false⟩ as ⟨0x5D :: rest, true⟩ :=
      gives_items h hBlanks (Nat.lt_succ_self _) hBody.symm
    exact Gives.enclosed (Gives.bind rfl hItems) (gives_closeList rest true)

/-- A list is read if its items are read as they were before they were written. -/
theorem decodes_list_map {α : Type} {item : Decoder α} {json : α → Value} {as : List α}
    (h : ∀ a ∈ as, Decodes item (json a) a) : Decodes (list item) (.list (as.map json)) as :=
  decodes_list (List.forall₂_map_left_iff.mpr (List.forall₂_same.mpr h))

/-! ## Documents -/

variable {α β : Type} {decoder : Decoder α} {value : Value} {a : α}

/-- What is made of a value that is read. -/
theorem Decodes.map (f : α → β) (h : Decodes decoder value a) :
    Decodes (do return f (← decoder)) value (f a) where
  starts := h.starts
  reads layout cursor rest hAhead := by
    obtain ⟨after, hRead, hRest⟩ := h.reads layout cursor rest hAhead
    exact ⟨after, hRead.bind (gives_pure _ _), hRest⟩

/-- **A document that holds a value, and nothing else, is read.** -/
theorem Decodes.run_eq (h : Decodes decoder value a) (layout : Layout) :
    decoder.run (Utf8.encode (value.render layout)) = .ok a := by
  have hAhead : (⟨Utf8.encode (value.render layout), false⟩ : Cursor).ahead
      = Utf8.encode (value.render layout) ++ [] :=
    Cursor.ahead_of_rest (by simp) areBlank_nil (h.starts layout)
  obtain ⟨after, hRead, hRest⟩ := h.reads layout _ [] hAhead
  have hFinish : finish.Gives after () ⟨[], false⟩ := by
    have hEnd : skipBlanks.Gives after none ⟨[], false⟩ := by
      rw [Gives, skipBlanks, hRest]
      rfl
    exact hEnd.bind (gives_pure () _)
  have hWhole : Gives (do let a ← decoder; finish; pure a)
      ⟨Utf8.encode (value.render layout), false⟩ a ⟨[], false⟩ :=
    hRead.bind (hFinish.bind (gives_pure a _))
  unfold Gives at hWhole
  rw [run, hWhole]

end Linguist.Json
