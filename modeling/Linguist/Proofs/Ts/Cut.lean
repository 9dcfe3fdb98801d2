import Linguist.Proofs.Ts.Forbidden
import Linguist.Proofs.Ts.RoundTrip
import Linguist.Proofs.Xml.Lexing

/-!
# Linguist — a cut text is read back

The slices of a text and the characters between them are written in a row, and
what is written can stand in an element of any name, at any place. It is read as
the text, and just the events behind the element are left.

* `byteChar_byteValue` — the element of a character is read as the character.
* `cut_text_is_read_back` — a text is taken apart without loss, and read as itself.
-/

namespace Linguist.Ts

open Xml
open Xml.Forest (Holds)

/-- The element of a character is read as the character. -/
theorem byteChar_byteValue (c : Char) (position : Nat) :
    byteChar (Tag.ofName "byte" [("value", byteValue c)]) position = .ok c := by
  have hName : IsWord "byte" := by decide
  have hKey : IsWord "value" := by decide
  rw [← toOption_eq_some_iff, toOption_byteChar, byte?,
    attribute?_ofName hName (areWritable_singleton hKey (byteValue c))]
  simp [byteValue?_byteValue]

/-- **A text is taken apart without loss.** Slices of a text, told by numbers of bytes, are never
empty and fall between characters, so each of them is there to be taken. In a row with the
characters that cannot stand in a document they are what is written, and are the text: nothing is
left out, and nothing comes twice. What is written holds no forbidden character, since a character
by itself is written as its number in hexadecimal digits, which is read as the character. So the
content of an element of any name is read as the text that was written there, whatever stands in
front of the element or behind it, and the events behind the element are left. -/
theorem cut_text_is_read_back {name : String} (hName : IsWord name) (s : String)
    (opened : List Bytes) (tag : Tag) (position offset : Nat) (rest : Bytes) :
    let fragment := Node.renderAll (textNodes s)
    let inside := Utf8.encode (fragment ++ "</" ++ name ++ ">")
    let events := Lexer.eventsFrom (Utf8.encode name :: opened) offset .fresh (inside ++ rest)
    let after := Lexer.eventsFrom opened (offset + inside.length) .fresh rest
    let body := Forest.ofEvents events
    (∀ start stop, .slice start stop ∈ cuts s →
      start < stop ∧ String.Pos.Raw.IsValid s ⟨start⟩ ∧ String.Pos.Raw.IsValid s ⟨stop⟩) ∧
      (∀ c, .forbidden c ∈ cuts s → isForbidden c = true) ∧
      (∃ parts : List Piece, (cuts s).map (Cut.piece? s) = parts.map some ∧
        textNodes s = parts.map Piece.node ∧ parts.flatMap Piece.characters = s.toList) ∧
      (∀ c ∈ fragment.toList, isForbidden c = false) ∧
      (∀ c : Char,
        (Numeral.Denotes 16 (Numeral.hex c.toNat).toList c.toNat ∧
          ∀ digit ∈ (Numeral.hex c.toNat).toList, digit.isUpper = false) ∧
        ∀ place,
          byteChar (Tag.ofName "byte" [("value", "x" ++ Numeral.hex c.toNat)]) place = .ok c) ∧
      Forest.ofEvents ⟨⟨.start tag, position⟩ :: events.items, events.ending⟩
        = .element tag position body (Forest.ofEvents after) ∧
      (readText name body).result = .ok s ∧
      ∃ left, (takeText events.ending name events.items).result = .ok (s, left) ∧
        left.rest = after.items := by
  intro fragment inside events after body
  have hWritten : forbidden fragment = [] := by
    rw [forbidden_renderAll, forbidden_textNodes]
  obtain ⟨⟨close, hHolds⟩, hElement, hBeyond⟩ := exists_holds_of_feed hName
    (Lexer.feed_renderAll (textNodes s) (isWritable_textNodes s) (Utf8.encode name :: opened) [])
    tag position offset rest
  have hText : (readText name body).result = .ok s :=
    toOption_eq_some_iff.mp ((value?_readText_closed hHolds).trans (text?_textNodes s))
  obtain ⟨left, hTaken, hLeft⟩ := exists_takeText hText
  refine ⟨fun start stop hCut => ?_, fun c hCut => isProper_of_mem_cutsFrom _ hCut,
    ⟨pieces s.toList, piece?_cuts s, textNodes_eq s, flatMap_pieces s.toList⟩,
    forbidden_eq_nil_iff.mp hWritten, fun c => ?_, hElement, hText, left, hTaken,
    hLeft.trans hBeyond⟩
  · exact ⟨isProper_of_mem_cutsFrom _ hCut, isValid_of_slice_mem_cuts hCut⟩
  · exact ⟨⟨Numeral.denotes_hex c.toNat, Numeral.isUpper_of_mem_hex⟩, byteChar_byteValue c⟩

/-- Forbidden characters of one byte and of three at both ends and next to each other. -/
theorem cut_text_is_read_back_source :
    let s := "\x01aé\x02\uFFFEz<\uFFFF"
    let fragment := Node.renderAll (textNodes s)
    let body := Forest.ofEvents (Lexer.eventsFrom [Utf8.encode "source"] 0 .fresh
      (Utf8.encode (fragment ++ "</" ++ "source" ++ ">") ++ Utf8.encode "</message>"))
    cuts s = [.forbidden '\x01', .slice 1 4, .forbidden '\x02', .forbidden '\uFFFE',
        .slice 8 10, .forbidden '\uFFFF'] ∧
      fragment = "<byte value=\"x1\"/>aé<byte value=\"x2\"/><byte value=\"xfffe\"/>z&lt;"
        ++ "<byte value=\"xffff\"/>" ∧
      (∀ c ∈ fragment.toList, isForbidden c = false) ∧
      (readText "source" body).result = .ok s := by
  intro s fragment body
  have hName : IsWord "source" := by decide
  obtain ⟨-, -, -, hAllowed, -, -, hText, -⟩ :=
    cut_text_is_read_back hName s [] ⟨Utf8.encode "source"⟩ 0 0 (Utf8.encode "</message>")
  exact ⟨by decide +kernel, by decide +kernel, hAllowed, hText⟩

end Linguist.Ts
