import Linguist.Text.Utf8

/-!
# Linguist — a text is read back from its bytes

Every character is written in one to four bytes from which the reader makes the
same character, whatever bytes follow. So a text read from its own bytes is the
text, by the strict reader and by the one that mends.

* `decode_encode` / `decodeLossy_encode` — both readers undo the writer.
* `encode_injective` — different texts have different bytes.
* `toNat_of_mem_encodeChar` — a byte below 0x80 stands for its own character only.
* `infix_of_infix_encodeChars` — so ASCII text is found among bytes only where it is in the text.
-/

namespace Linguist.Utf8

/-! ## One character -/

/-- A code point is no surrogate and not too large. -/
theorem toNat_bounds (c : Char) :
    c.toNat < 0xD800 ∨ (0xDFFF < c.toNat ∧ c.toNat < 0x110000) :=
  c.valid

theorem toNat_ofNat_of_lt {n : Nat} (h : n < 256) : (UInt8.ofNat n).toNat = n := by
  simp only [UInt8.toNat_ofNat']
  omega

/-- The last byte of a character. -/
theorem piecesFrom_last {seen bits low high n : Nat} {c : Char} (rest : Bytes)
    (hByte : n < 256) (hLow : low ≤ n) (hHigh : n ≤ high)
    (hBits : bits * 64 + (n - 0x80) = c.toNat) :
    piecesFrom (.inside seen 1 bits low high) (UInt8.ofNat n :: rest)
      = .char c :: piecesFrom .start rest := by
  rw [piecesFrom, toNat_ofNat_of_lt hByte]
  simp [State.next, hLow, hHigh, hBits, Char.ofNat_toNat]

/-- A byte inside a character that is not its last one. -/
theorem piecesFrom_more {seen more bits low high n : Nat} (rest : Bytes)
    (hByte : n < 256) (hLow : low ≤ n) (hHigh : n ≤ high) :
    piecesFrom (.inside seen (more + 2) bits low high) (UInt8.ofNat n :: rest)
      = piecesFrom (.inside (seen + 1) (more + 1) (bits * 64 + (n - 0x80)) 0x80 0xBF) rest := by
  rw [piecesFrom, toNat_ofNat_of_lt hByte]
  simp [State.next, hLow, hHigh]

/-- The first byte of a character of more than one byte. -/
theorem piecesFrom_first {n : Nat} {s : State} (rest : Bytes) (hByte : n < 256)
    (hEnter : enter n = ([], s)) :
    piecesFrom .start (UInt8.ofNat n :: rest) = piecesFrom s rest := by
  rw [piecesFrom, toNat_ofNat_of_lt hByte]
  simp [State.next, hEnter]

/-- The first byte of a character of two bytes. -/
theorem enter_two {n : Nat} (hLow : 0xC2 ≤ n) (hHigh : n < 0xE0) :
    enter n = ([], .inside 1 1 (n - 0xC0) 0x80 0xBF) := by
  unfold enter
  rw [if_neg (by omega), if_neg (by omega), if_pos hHigh]

/-- The first byte of a character of three bytes. -/
theorem enter_three {n : Nat} (hLow : 0xE0 ≤ n) (hHigh : n < 0xF0) :
    enter n = ([], .inside 1 2 (n - 0xE0) (if n = 0xE0 then 0xA0 else 0x80)
      (if n = 0xED then 0x9F else 0xBF)) := by
  unfold enter
  rw [if_neg (by omega), if_neg (by omega), if_neg (by omega), if_pos hHigh]

/-- The first byte of a character of four bytes. -/
theorem enter_four {n : Nat} (hLow : 0xF0 ≤ n) (hHigh : n < 0xF5) :
    enter n = ([], .inside 1 3 (n - 0xF0) (if n = 0xF0 then 0x90 else 0x80)
      (if n = 0xF4 then 0x8F else 0xBF)) := by
  unfold enter
  rw [if_neg (by omega), if_neg (by omega), if_neg (by omega), if_neg (by omega), if_pos hHigh]

/-- The reader makes the character out of its bytes and stands at the start again. -/
theorem piecesFrom_encodeChar (c : Char) (rest : Bytes) :
    piecesFrom .start (encodeChar c ++ rest) = .char c :: piecesFrom .start rest := by
  have hc := toNat_bounds c
  unfold encodeChar
  -- one case for each length; the first byte tells it, the others give six bits each
  by_cases h1 : c.toNat < 0x80
  · have hb := toNat_ofNat_of_lt (show c.toNat < 256 by omega)
    simp [h1, piecesFrom, State.next, enter, hb, Char.ofNat_toNat]
  by_cases h2 : c.toNat < 0x800
  · simp only [h1, h2, if_true, if_false, List.cons_append, List.nil_append]
    rw [piecesFrom_first _ (by omega) (enter_two (by omega) (by omega)),
      piecesFrom_last (c := c) _ (by omega) (by omega) (by omega) (by omega)]
  by_cases h3 : c.toNat < 0x10000
  · simp only [h1, h2, h3, if_true, if_false, List.cons_append, List.nil_append]
    -- the bounds of the second byte keep out surrogates and what fits in two bytes
    rw [piecesFrom_first _ (by omega) (enter_three (by omega) (by omega)),
      piecesFrom_more _ (by omega) (by split <;> omega) (by split <;> omega),
      piecesFrom_last (c := c) _ (by omega) (by omega) (by omega) (by omega)]
  · simp only [h1, h2, h3, if_false, List.cons_append, List.nil_append]
    rw [piecesFrom_first _ (by omega) (enter_four (by omega) (by omega)),
      piecesFrom_more _ (by omega) (by split <;> omega) (by split <;> omega),
      piecesFrom_more _ (by omega) (by omega) (by omega),
      piecesFrom_last (c := c) _ (by omega) (by omega) (by omega) (by omega)]

/-- A byte below 0x80 among the bytes of a character is the character itself. -/
theorem toNat_of_mem_encodeChar {c : Char} {b : UInt8} (hb : b ∈ encodeChar c)
    (hAscii : b.toNat < 0x80) : c.toNat = b.toNat := by
  have hc := toNat_bounds c
  -- all bytes of a character of more than one byte are 0x80 or more
  have hHigh : ∀ n : Nat, 0x80 ≤ n → n < 256 → b ≠ UInt8.ofNat n := by
    intro n hLow hByte h
    rw [h, toNat_ofNat_of_lt hByte] at hAscii
    omega
  unfold encodeChar at hb
  by_cases h1 : c.toNat < 0x80
  · simp only [h1, if_true, List.mem_singleton] at hb
    rw [hb, toNat_ofNat_of_lt (by omega)]
  · exfalso
    simp only [h1, if_false] at hb
    split at hb
    · simp only [List.mem_cons, List.not_mem_nil, or_false] at hb
      rcases hb with hb | hb <;> exact hHigh _ (by omega) (by omega) hb
    split at hb
    · simp only [List.mem_cons, List.not_mem_nil, or_false] at hb
      rcases hb with hb | hb | hb <;> exact hHigh _ (by omega) (by omega) hb
    · simp only [List.mem_cons, List.not_mem_nil, or_false] at hb
      rcases hb with hb | hb | hb | hb <;> exact hHigh _ (by omega) (by omega) hb

/-! ## Whole texts -/

/-- The bytes of characters are read as those characters. -/
theorem pieces_encodeChars (cs : List Char) : pieces (encodeChars cs) = cs.map .char := by
  unfold pieces
  induction cs with
  | nil => rfl
  | cons c cs ih =>
    rw [encodeChars, List.flatMap_cons, piecesFrom_encodeChar]
    exact congrArg _ ih

theorem charsOfPieces_map_char (cs : List Char) (index : Nat) :
    charsOfPieces index (cs.map .char) = .ok cs := by
  induction cs generalizing index with
  | nil => rfl
  | cons c cs ih =>
    rw [List.map_cons, charsOfPieces, ih]
    rfl

/-- The strict reader undoes the writer. -/
theorem decode_encode (s : String) : decode (encode s) = .ok s := by
  rw [decode, encode, pieces_encodeChars, charsOfPieces_map_char]
  exact congrArg Except.ok String.ofList_toList

/-- The reader that mends has nothing to mend in the bytes of a text. -/
theorem decodeLossy_encode (s : String) : decodeLossy (encode s) = s := by
  have hLossy : Piece.charLossy ∘ Piece.char = id := rfl
  rw [decodeLossy, encode, pieces_encodeChars, List.map_map, hLossy, List.map_id]
  exact String.ofList_toList

theorem encode_injective {s t : String} (h : encode s = encode t) : s = t := by
  rw [← decodeLossy_encode s, h, decodeLossy_encode]

/-- A byte below 0x80 in a text is one of its characters. -/
theorem exists_mem_of_mem_encode {s : String} {b : UInt8} (hb : b ∈ encode s)
    (hAscii : b.toNat < 0x80) : ∃ c ∈ s.toList, c.toNat = b.toNat := by
  rw [encode, encodeChars, List.mem_flatMap] at hb
  obtain ⟨c, hc, hb⟩ := hb
  exact ⟨c, hc, toNat_of_mem_encodeChar hb hAscii⟩

/-! ## ASCII text in a text -/

theorem encodeChars_cons_of_ascii {c : Char} (h : c.toNat < 0x80) (cs : List Char) :
    encodeChars (c :: cs) = UInt8.ofNat c.toNat :: encodeChars cs := by
  simp [encodeChars, encodeChar, h]

theorem toNat_ofNat_of_ascii {c : Char} (h : c.toNat < 0x80) :
    (UInt8.ofNat c.toNat).toNat = c.toNat :=
  toNat_ofNat_of_lt (by omega)

/-- Every character has bytes. -/
theorem eq_nil_of_encodeChars_eq_nil {cs : List Char} (h : encodeChars cs = []) : cs = [] := by
  have hEmpty : encode (String.ofList cs) = encode "" := by
    rw [encode, String.toList_ofList, h]
    rfl
  have hSame := congrArg String.toList (encode_injective hEmpty)
  rwa [String.toList_ofList] at hSame

/-- A text can be cut where a byte below 0x80 stands among its bytes. -/
theorem exists_of_encodeChars_eq {cs : List Char} {p q : Bytes} {b : UInt8}
    (h : encodeChars cs = p ++ b :: q) (hAscii : b.toNat < 0x80) :
    ∃ before c after, cs = before ++ c :: after ∧ c.toNat = b.toNat ∧ encodeChars before = p ∧
      encodeChars after = q := by
  induction cs generalizing p with
  | nil => simp at h
  | cons c cs ih =>
    have hBytes : encodeChar c ++ encodeChars cs = p ++ b :: q := h
    -- the byte is behind those of the first character, or it is the only one of them
    rcases List.append_eq_append_iff.mp hBytes with ⟨middle, rfl, hRest⟩ | ⟨middle, hFirst, hRest⟩
    · obtain ⟨before, d, after, rfl, hd, rfl, rfl⟩ := ih hRest
      exact ⟨c :: before, d, after, rfl, hd, rfl, rfl⟩
    · cases middle with
      | nil =>
        obtain ⟨before, d, after, rfl, hd, hBefore, rfl⟩ := ih (p := []) hRest.symm
        obtain rfl := eq_nil_of_encodeChars_eq_nil hBefore
        exact ⟨[c], d, after, rfl, hd, by simpa [encodeChars] using hFirst, rfl⟩
      | cons b' middle =>
        obtain ⟨rfl, rfl⟩ := List.cons.inj hRest
        have hc : c.toNat = b.toNat := toNat_of_mem_encodeChar (by simp [hFirst]) hAscii
        have hOne : encodeChar c = [UInt8.ofNat c.toNat] := by simp [encodeChar, hc, hAscii]
        have hLength := congrArg List.length (hFirst.symm.trans hOne)
        simp only [List.length_append, List.length_cons, List.length_nil] at hLength
        obtain rfl : p = [] := List.length_eq_zero_iff.mp (by omega)
        obtain rfl : middle = [] := List.length_eq_zero_iff.mp (by omega)
        exact ⟨[], c, cs, rfl, hc, rfl, rfl⟩

/-- The bytes of ASCII text stand in front of those of a text only if the text starts with it. -/
theorem prefix_of_prefix_encodeChars {xs cs : List Char} (hAscii : ∀ x ∈ xs, x.toNat < 0x80)
    (h : encodeChars xs <+: encodeChars cs) : xs <+: cs := by
  induction xs generalizing cs with
  | nil => exact List.nil_prefix
  | cons x xs ih =>
    obtain ⟨hx, hOthers⟩ := List.forall_mem_cons.mp hAscii
    have hByte := toNat_ofNat_of_ascii hx
    obtain ⟨q, hq⟩ := h
    rw [encodeChars_cons_of_ascii hx] at hq
    obtain ⟨before, c, after, rfl, hc, hBefore, hAfter⟩ :=
      exists_of_encodeChars_eq (p := []) hq.symm (by omega)
    obtain rfl := eq_nil_of_encodeChars_eq_nil hBefore
    obtain rfl : c = x := Char.toNat_inj.mp (hc.trans hByte)
    exact List.cons_prefix_cons.mpr ⟨rfl, ih hOthers ⟨q, hAfter.symm⟩⟩

/-- The bytes of ASCII text stand among those of a text only where the text holds it. -/
theorem infix_of_infix_encodeChars {xs cs : List Char} (hAscii : ∀ x ∈ xs, x.toNat < 0x80)
    (h : encodeChars xs <:+: encodeChars cs) : xs <:+: cs := by
  cases xs with
  | nil => exact List.nil_infix
  | cons x xs =>
    obtain ⟨hx, hOthers⟩ := List.forall_mem_cons.mp hAscii
    have hByte := toNat_ofNat_of_ascii hx
    obtain ⟨p, q, hSplit⟩ := h
    rw [encodeChars_cons_of_ascii hx, List.append_assoc, List.cons_append] at hSplit
    obtain ⟨before, c, after, rfl, hc, -, hAfter⟩ :=
      exists_of_encodeChars_eq hSplit.symm (by omega)
    obtain rfl : c = x := Char.toNat_inj.mp (hc.trans hByte)
    obtain ⟨rest, rfl⟩ := prefix_of_prefix_encodeChars hOthers ⟨q, hAfter.symm⟩
    exact ⟨before, rest, by simp⟩

end Linguist.Utf8
