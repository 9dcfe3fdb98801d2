import Linguist.Proofs.Ts.Stream
import Linguist.Proofs.Ts.Target
import Linguist.Proofs.Ts.WrittenNode
import Linguist.Proofs.Xml.Spelling

/-!
# Linguist — texts are read independently of their spelling

Two readers add up texts, one for the elements that carry a text and one for
targets, and both take every piece for itself. So what they come to is the text
that the pieces stand for, however it is cut and spelled, whatever element it
stands in and whatever comes behind that element.

* `characters?_markup` — a piece with angle brackets is read as what it stands for.
* `text?_ofSpellings` — spelled text is read as the text.
* `exists_holds_spelled` — behind the start tag of an element stands its spelled text.
* `read_spelled` — both readers agree on the text of an element of any name.
-/

namespace Linguist.Ts

open Xml
open Xml.Forest (Holds)
open Xml.Spelling (IsByteValue textAll writtenAll)

/-! ## Pieces -/

/-- A piece with angle brackets is read as the characters it stands for. -/
theorem characters?_markup {piece : Spelling} (hValid : piece.IsValid) {content : Content}
    (hMarkup : piece.markup? = some content) : characters? content = some piece.text := by
  cases piece with
  | literal s | named name c | decimal digits c | hexadecimal digits c => cases hMarkup
  | cdata s =>
    cases hMarkup
    rw [characters?, Utf8.decodeLossy_encode]
    rfl
  | byte value c =>
    cases hMarkup
    rw [characters?_byte, byteValue?_of_isByteValue hValid]
    rfl
  | comment s | instruction s =>
    cases hMarkup
    rfl

/-- Spelled text is read as the text, behind the text of the character data that is still open. -/
theorem text?_ofSpellings {pieces : List Spelling} (hValid : ∀ piece ∈ pieces, piece.IsValid)
    {data text : String} (hOpen : Resolves data.toList text.toList) :
    text? (Content.ofSpellings (Utf8.encode data) pieces) = some (text ++ textAll pieces) := by
  have hFresh : Resolves "".toList "".toList := .nil
  -- character data is one piece of content up to the next bracket, so it is resolved as a whole
  induction pieces generalizing data text with
  | nil =>
    rw [Content.ofSpellings, ← List.append_nil (Content.ofRun _),
      text?_ofRun_of_characters hOpen.characters_eq]
    rfl
  | cons piece rest ih =>
    obtain ⟨hPiece, hRest⟩ := List.forall_mem_cons.mp hValid
    rw [Content.ofSpellings, Spelling.textAll_cons, ← String.append_assoc]
    cases hMarkup : piece.markup? with
    | none =>
      obtain ⟨hResolves, -⟩ := Spelling.resolves_written hPiece hMarkup
      have hLonger : Resolves (data ++ piece.written).toList (text ++ piece.text).toList := by
        rw [String.toList_append, String.toList_append]
        exact hOpen.append hResolves
      rw [← ih hRest hLonger, Utf8.encode_append]
    | some content =>
      have hOthers := ih hRest hFresh
      rw [String.empty_append] at hOthers
      show text? (Content.ofRun _ ++ content :: Content.ofSpellings (Utf8.encode "") rest) = _
      rw [text?_ofRun_of_characters hOpen.characters_eq, text?_cons,
        characters?_markup hPiece hMarkup, hOthers]
      simp [inRow, String.append_assoc]

/-- Spelled text is read as the text. -/
theorem text?_spelled {pieces : List Spelling} (hValid : ∀ piece ∈ pieces, piece.IsValid) :
    text? (Content.ofSpellings [] pieces) = some (textAll pieces) := by
  have hFresh : Resolves "".toList "".toList := .nil
  exact (text?_ofSpellings hValid hFresh).trans (congrArg some String.empty_append)

/-- The only elements in spelled text are those of characters. -/
theorem named_ofSpellings {label : String} (hLabel : label ≠ "byte") (run : Bytes)
    (pieces : List Spelling) : named label (elements (Content.ofSpellings run pieces)) = [] := by
  induction pieces generalizing run with
  | nil =>
    rw [Content.ofSpellings, ← List.append_nil (Content.ofRun run), elements_ofRun_append]
    rfl
  | cons piece rest ih =>
    rw [Content.ofSpellings]
    cases hMarkup : piece.markup? with
    | none => exact ih _
    | some content =>
      show named label (elements (Content.ofRun run ++ content :: _)) = []
      rw [elements_ofRun_append, elements_cons, named_append, ih, List.append_nil]
      cases piece with
      | literal s | named name c | decimal digits c | hexadecimal digits c => cases hMarkup
      | cdata s | comment s | instruction s =>
        cases hMarkup
        rfl
      | byte value c =>
        cases hMarkup
        exact named_cons_of_ne (by rw [label_ofName (by decide)]; exact hLabel.symm) []

/-! ## Elements -/

/-- Behind the start tag of an element stands its spelled text, up to its end tag, and then what
follows the element. -/
theorem exists_holds_spelled {label : String} (hLabel : IsWord label) {pieces : List Spelling}
    (hValid : ∀ piece ∈ pieces, piece.IsValid) (opened : List Bytes) (tag : Tag)
    (position offset : Nat) (rest : Bytes) :
    let inside := Utf8.encode (writtenAll pieces ++ "</" ++ label ++ ">")
    let events := Lexer.eventsFrom (Utf8.encode label :: opened) offset .fresh (inside ++ rest)
    let after := Lexer.eventsFrom opened (offset + inside.length) .fresh rest
    (∃ close, Holds (Forest.ofEvents events) (Content.ofSpellings [] pieces) (.closed close)) ∧
      Forest.ofEvents ⟨⟨.start tag, position⟩ :: events.items, events.ending⟩
        = .element tag position (Forest.ofEvents events) (Forest.ofEvents after) ∧
      Forest.beyond 0 events.items = after.items :=
  exists_holds_of_feed hLabel (feed_spelled pieces hValid _ []) tag position offset rest

/-- A target whose content is spelled text is that text. -/
theorem target?_ofSpellings {pieces : List Spelling} (hValid : ∀ piece ∈ pieces, piece.IsValid)
    (tag : Tag) :
    target? false ⟨tag, Content.ofSpellings [] pieces⟩ = some (.singular (textAll pieces)) := by
  have hForms : texts? "numerusform" (elements (Content.ofSpellings [] pieces)) = some [] := by
    rw [texts?, named_ofSpellings (by decide), List.mapM_nil]
    rfl
  unfold target? Element.children
  rw [text?_spelled hValid, hForms]
  rfl

/-- **Spelling.** The text of an element is the one that the pieces between its tags stand for,
however it was cut into pieces and whichever way each of them is spelled, with comments and
instructions anywhere between them. It does not depend on the name of the element, and a target of
a message without a number is that text as well. Nothing in front of the element or behind it
matters, and whoever takes the text leaves just the events behind the element. -/
theorem read_spelled {label : String} (hLabel : IsWord label) {pieces : List Spelling}
    (hValid : ∀ piece ∈ pieces, piece.IsValid) (opened : List Bytes) (tag : Tag)
    (position offset : Nat) (rest : Bytes) :
    let inside := Utf8.encode (writtenAll pieces ++ "</" ++ label ++ ">")
    let events := Lexer.eventsFrom (Utf8.encode label :: opened) offset .fresh (inside ++ rest)
    let after := Lexer.eventsFrom opened (offset + inside.length) .fresh rest
    let body := Forest.ofEvents events
    Forest.ofEvents ⟨⟨.start tag, position⟩ :: events.items, events.ending⟩
        = .element tag position body (Forest.ofEvents after) ∧
      (readText label body).result = .ok (textAll pieces) ∧
      (∀ status, statusOf tag position = .ok status →
        (readTarget false tag position body).result
          = .ok (.singular (textAll pieces), status)) ∧
      (∃ left, (takeText events.ending label events.items).result = .ok (textAll pieces, left) ∧
        left.rest = after.items) ∧
      (label = "translation" → ∀ status, statusOf tag position = .ok status →
        ∃ left, (takeTarget events.ending false tag position events.items).result
            = .ok ((.singular (textAll pieces), status), left) ∧
          left.rest = after.items) := by
  intro inside events after body
  obtain ⟨⟨close, hHolds⟩, hElement, hBeyond⟩ :=
    exists_holds_spelled hLabel hValid opened tag position offset rest
  have hText : (readText label body).result = .ok (textAll pieces) :=
    toOption_eq_some_iff.mp ((value?_readText_closed hHolds).trans (text?_spelled hValid))
  have hTarget : ∀ status, statusOf tag position = .ok status →
      (readTarget false tag position body).result = .ok (.singular (textAll pieces), status) := by
    intro status hStatus
    have hStatus? : status? tag = some status := by
      rw [← toOption_statusOf tag position, hStatus, toOption_ok]
    refine toOption_eq_some_iff.mp ((value?_readTarget hHolds).trans ?_)
    rw [targetAndStatus?, hStatus?, target?_ofSpellings hValid]
    rfl
  obtain ⟨left, hTaken, hLeft⟩ := exists_takeText hText
  refine ⟨hElement, hText, hTarget, ⟨left, hTaken, hLeft.trans hBeyond⟩,
    fun hTranslation status hStatus => ?_⟩
  have hNested : WellNested (Utf8.encode label :: opened) events.items :=
    wellNested_eventsFrom _ offset .fresh (inside ++ rest)
  have hTaken := @leaves_takeTarget events.ending false tag position _ _ _
    ((Utf8.decodeLossy_encode label).trans hTranslation) hNested
  rw [← Forest.ofEvents_eq, hBeyond] at hTaken
  exact hTaken.exists_left (hTarget status hStatus)

/-- A target in ten pieces: literal text may hold the end of a CDATA section, a comment may start
with what ends others, figures may have zeros in front, and a section may hold markup. -/
theorem read_spelled_mixed :
    let pieces : List Spelling := [.literal "a]]>", .named "lt" '<', .comment ">-",
      .decimal "0065" 'A', .instruction "b", .hexadecimal "1F600" '😀', .cdata "]]<byte/>&lt;]",
      .byte "0x1" '\x01', .byte "xa" '\n', .byte "009" '\t']
    let tag : Tag := ⟨Utf8.encode "translation type=\"unfinished\""⟩
    let inside := Utf8.encode (writtenAll pieces ++ "</" ++ "translation" ++ ">")
    let events := Lexer.eventsFrom [Utf8.encode "translation"] 0 .fresh
      (inside ++ Utf8.encode "</message>")
    let body := Forest.ofEvents events
    let text := "a]]><A😀]]<byte/>&lt;]\x01\n\t"
    (∀ piece ∈ pieces, piece.IsValid) ∧ statusOf tag 0 = .ok .unfinished ∧
      (readText "translation" body).result = .ok text ∧
      (readTarget false tag 0 body).result = .ok (.singular text, .unfinished) ∧
      ∃ left, (takeTarget events.ending false tag 0 events.items).result
        = .ok ((.singular text, .unfinished), left) := by
  intro pieces tag inside events body text
  have hPrefixed : IsByteValue "0x1" 1 :=
    (by decide : "0x" ++ "1" = "0x1") ▸ .prefixed (by decide)
  have hHexadecimal : IsByteValue "xa" 10 :=
    (by decide : "x" ++ "a" = "xa") ▸ .hexadecimal (by decide)
  have hValid : ∀ piece ∈ pieces, piece.IsValid := by
    simp only [pieces, List.forall_mem_cons, Spelling.IsValid]
    exact ⟨by decide, by decide, by decide, by decide, by decide, by decide +kernel,
      by decide +kernel, hPrefixed, hHexadecimal, .decimal (by decide), by simp⟩
  have hLabel : IsWord "translation" := by decide
  have hStatus : statusOf tag 0 = .ok .unfinished := by decide +kernel
  have hAll : textAll pieces = text := by decide +kernel
  obtain ⟨-, hText, hTarget, -, hTaken⟩ :=
    read_spelled hLabel hValid [] tag 0 0 (Utf8.encode "</message>")
  rw [hAll] at hText hTarget hTaken
  obtain ⟨left, hLeft, -⟩ := hTaken rfl .unfinished hStatus
  exact ⟨hValid, hStatus, hText, hTarget .unfinished hStatus, left, hLeft⟩

end Linguist.Ts
