import Linguist.Json.Text
import Linguist.Json.Value
import Linguist.Proofs.Text.Utf8

/-!
# Linguist — a JSON text is read as what it was written from

A text is written between marks, its control characters, marks and backslashes
as escapes. The reader takes the bytes one by one and does not know where a
character ends; but behind each character it stands where it stood in front of
it, with the bytes of that character added.

* `readText_escapeChar` — one character, escaped or not.
* `text_inside` — a text up to its closing mark.
-/

namespace Linguist.Json

/-! ## One character -/

/-- Bytes that stand for themselves are added one after the other. -/
theorem readText_plain {bytes : Bytes} (soFar rest : Bytes)
    (h : ∀ b ∈ bytes, b ≠ 0x22 ∧ b ≠ 0x5C ∧ ¬ b < 0x20) :
    readText true .plain soFar (bytes ++ rest)
      = readText true .plain (bytes.reverse ++ soFar) rest := by
  induction bytes generalizing soFar with
  | nil => rfl
  | cons b bytes ih =>
    obtain ⟨hMark, hEscape, hControl⟩ := h b List.mem_cons_self
    have hStep : TextState.step true .plain b = .go [b] .plain := by
      simp [TextState.step, hMark, hEscape, hControl]
    rw [List.cons_append, readText, hStep]
    show readText true .plain ([b].reverse ++ soFar) (bytes ++ rest) = _
    rw [ih _ fun x hx => h x (List.mem_cons_of_mem b hx)]
    simp

/-- A letter behind a backslash is read as the byte it stands for. -/
theorem readText_letter {c : Char} {written : String} (letter byte : UInt8) (soFar rest : Bytes)
    (hWritten : Utf8.encode written = [0x5C, letter]) (hLetter : letter ≠ 0x75)
    (hByte : plainEscape? letter = some byte) (hChar : Utf8.encodeChar c = [byte]) :
    readText true .plain soFar (Utf8.encode written ++ rest)
      = readText true .plain ((Utf8.encodeChar c).reverse ++ soFar) rest := by
  rw [hWritten, hChar]
  simp [readText, TextState.step, hLetter, hByte]

/-- An escape with four digits is read as the character with this number. -/
theorem readText_digits {digits : Bytes} {n : Nat} (soFar rest : Bytes)
    (hLength : digits.length = 4) (hValue : hexValue? digits.reverse = some n) (hLow : n < 0xD800) :
    readText true .plain soFar (0x5C :: 0x75 :: (digits ++ rest))
      = readText true .plain ((Utf8.encodeChar (Char.ofNat n)).reverse ++ soFar) rest := by
  match digits, hLength with
  | [a, b, c, d], _ =>
    have hNumber : hexValue? [d, c, b, a] = some n := hValue
    -- neither half of a pair, so the escape is complete with its fourth digit
    have hUnit : TextStep.ofUnit none n = .go (Utf8.encodeChar (Char.ofNat n)) .plain := by
      simp only [TextStep.ofUnit]
      rw [if_neg (by omega), if_neg (by omega)]
    simp [readText, TextState.step, hNumber, hUnit]

/-- A control character is written with four digits that give its number. -/
theorem hexPadded_control {n : Nat} (h : n < 0x20) :
    (Utf8.encode (Numeral.hexPadded 4 n)).length = 4 ∧
      hexValue? (Utf8.encode (Numeral.hexPadded 4 n)).reverse = some n := by
  revert h
  revert n
  decide +kernel

/-- The bytes of a character that is no mark, no backslash and no control stand for themselves. -/
theorem plain_of_mem_encodeChar {c : Char} (hMark : c ≠ '"') (hEscape : c ≠ '\\')
    (hControl : ¬ c.toNat < 0x20) :
    ∀ b ∈ Utf8.encodeChar c, b ≠ 0x22 ∧ b ≠ 0x5C ∧ ¬ b < 0x20 := by
  intro b hb
  -- a byte that means something here is ASCII, and so it would be the character itself
  have hSame : b.toNat < 0x80 → c.toNat = b.toNat := Utf8.toNat_of_mem_encodeChar hb
  refine ⟨?_, ?_, ?_⟩
  · rintro rfl
    exact hMark (Char.toNat_inj.mp (hSame (by decide)))
  · rintro rfl
    exact hEscape (Char.toNat_inj.mp (hSame (by decide)))
  · intro hLow
    have hNat : b.toNat < 0x20 := UInt8.lt_iff_toNat_lt.mp hLow
    have hNumber := hSame (by omega)
    omega

/-- However a character is written, it is read as its bytes. -/
theorem readText_escapeChar (c : Char) (soFar rest : Bytes) :
    readText true .plain soFar (Utf8.encode (escapeChar c) ++ rest)
      = readText true .plain ((Utf8.encodeChar c).reverse ++ soFar) rest := by
  unfold escapeChar
  split
  -- the characters with a letter of their own
  · exact readText_letter 0x22 0x22 soFar rest rfl (by decide) rfl rfl
  · exact readText_letter 0x5C 0x5C soFar rest rfl (by decide) rfl rfl
  · exact readText_letter 0x62 0x08 soFar rest rfl (by decide) rfl rfl
  · exact readText_letter 0x66 0x0C soFar rest rfl (by decide) rfl rfl
  · exact readText_letter 0x6E 0x0A soFar rest rfl (by decide) rfl rfl
  · exact readText_letter 0x72 0x0D soFar rest rfl (by decide) rfl rfl
  · exact readText_letter 0x74 0x09 soFar rest rfl (by decide) rfl rfl
  split
  · rename_i hControl
    obtain ⟨hLength, hValue⟩ := hexPadded_control hControl
    have hDigits := readText_digits soFar rest hLength hValue (by omega)
    rw [Char.ofNat_toNat] at hDigits
    have hIntro : Utf8.encode "\\u" = [0x5C, 0x75] := rfl
    rw [Utf8.encode_append, hIntro, List.append_assoc, List.cons_append, List.cons_append,
      List.nil_append]
    exact hDigits
  · rename_i hMark hEscape _ _ _ _ _ hControl
    have hBytes : Utf8.encode c.toString = Utf8.encodeChar c := by
      simp [Utf8.encode, Utf8.encodeChars]
    rw [hBytes]
    exact readText_plain soFar rest (plain_of_mem_encodeChar hMark hEscape hControl)

/-! ## Whole texts -/

/-- What stands between the marks of a written text. -/
def inside (s : String) : Bytes :=
  Utf8.encode (String.join (s.toList.map escapeChar))

theorem encode_quoted (s : String) : Utf8.encode (quoted s) = 0x22 :: (inside s ++ [0x22]) := by
  have hMark : Utf8.encode "\"" = [0x22] := rfl
  simp [quoted, inside, hMark]

theorem readText_inside (cs : List Char) (soFar rest : Bytes) :
    readText true .plain soFar
        (Utf8.encode (String.join (cs.map escapeChar)) ++ 0x22 :: rest)
      = .ok ((Utf8.encodeChars cs).reverse ++ soFar, rest) := by
  induction cs generalizing soFar with
  | nil => rfl
  | cons c cs ih =>
    rw [List.map_cons, String.join_cons, Utf8.encode_append, List.append_assoc,
      readText_escapeChar, ih]
    simp [Utf8.encodeChars]

namespace Decoder

/-- A text is read up to its closing mark, which is taken. -/
theorem text_inside (s : String) {cursor : Cursor} {rest : Bytes}
    (h : cursor.rest = inside s ++ 0x22 :: rest) : text cursor = .ok s ⟨rest, false⟩ := by
  have hRead : readText true .plain [] cursor.rest
      = .ok ((Utf8.encode s).reverse, rest) := by
    rw [h, inside, readText_inside, List.append_nil]
    rfl
  unfold text
  rw [hRead]
  simp only [List.reverse_reverse, Utf8.decode_encode]

end Decoder

end Linguist.Json
