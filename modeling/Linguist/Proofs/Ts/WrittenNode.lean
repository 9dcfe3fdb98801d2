import Linguist.Proofs.Ts.Slices
import Linguist.Proofs.Ts.Target
import Linguist.Proofs.Xml.Spelling

/-!
# Linguist — what written nodes mean

Written nodes, read as content: their elements are those that were written, with
the attributes they were written with, and their text is that of the nodes in a
row. A text that was cut at the characters that cannot stand in a document is
read as the text again.

* `elements_ofNodes` — the elements among written nodes.
* `attribute?_ofName` — the attributes of a written tag.
* `characters?_byte` — the character of a written `byte` element.
* `text?_textNodes` — the text of a written text.
-/

namespace Linguist.Xml

/-- The element that a written node is read as, if it is one. -/
def Node.element? : Node → Option Element
  | .text _ => none
  | .empty name attributes => some ⟨Tag.ofName name attributes, []⟩
  | .element name attributes children =>
    some ⟨Tag.ofName name attributes, Content.ofNodes [] children⟩

theorem elements_ofRun_append (run : Bytes) (content : List Content) :
    elements (Content.ofRun run ++ content) = elements content := by
  unfold Content.ofRun
  split <;> rfl

/-- Texts between written elements leave no element. -/
theorem elements_ofNodes (run : Bytes) (nodes : List Node) :
    elements (Content.ofNodes run nodes) = nodes.filterMap Node.element? := by
  induction nodes generalizing run with
  | nil =>
    rw [Content.ofNodes, ← List.append_nil (Content.ofRun run), elements_ofRun_append]
    rfl
  | cons node nodes ih =>
    cases node with
    | text characters =>
      rw [Content.ofNodes, ih]
      rfl
    | empty name attributes | element name attributes children =>
      rw [Content.ofNodes, elements_ofRun_append]
      exact congrArg (List.cons _) (ih [])

end Linguist.Xml

namespace Linguist.Ts

open Xml
open Xml.Spelling (IsByteValue)

/-- Members that are all read are read in a row. -/
theorem mapM_map_eq_some {α β γ : Type} {f : α → β} {g : β → Option γ} {h : α → γ}
    (hAll : ∀ a, g (f a) = some (h a)) (xs : List α) : (xs.map f).mapM g = some (xs.map h) := by
  have hPure : g ∘ f = fun a => pure (h a) := funext hAll
  rw [List.mapM_map, hPure, List.mapM_pure]
  rfl

theorem getLast?_toList {α : Type} (a : Option α) : a.toList.getLast? = a := by
  cases a <;> rfl

/-! ## Attributes -/

theorem areWritable_of_sublist {attributes : List (String × String)} (keys : List String)
    (hKeys : (attributes.map (·.1)).Sublist keys) (hWords : ∀ key ∈ keys, IsWord key)
    (hDistinct : keys.Nodup) : AreWritable attributes where
  words := fun _ hPair => hWords _ (hKeys.subset (List.mem_map_of_mem hPair))
  distinct := hDistinct.sublist hKeys

/-- An attribute has the value it was written with. -/
theorem attribute?_ofName {name : String} {attributes : List (String × String)}
    (hName : IsWord name) (hWritable : AreWritable attributes) (key : String) :
    attribute? (Tag.ofName name attributes) key = some (attributes.lookup key) := by
  unfold attribute? textAttribute
  rw [find_ofName hName hWritable]
  cases attributes.lookup key with
  | none => rfl
  | some value => simp [characters_encode_escape]

/-! ## Texts -/

theorem escape_append (a b : String) : escape (a ++ b) = escape a ++ escape b := by
  simp [escape, escapeChars, String.toList_append]

/-- Character data as content adds what it is read as. -/
theorem text?_ofRun_of_characters {raw : Bytes} {s : String} (h : characters raw = .ok s)
    (content : List Content) :
    text? (Content.ofRun raw ++ content) = inRow (some s) (text? content) := by
  unfold Content.ofRun
  split
  · rename_i hEmpty
    -- what is written as nothing is the empty text
    rw [List.isEmpty_iff.mp hEmpty] at h
    obtain rfl : "" = s := Except.ok.inj h
    rw [nothing_inRow]
    rfl
  · rw [List.singleton_append, text?_cons, characters?, h]
    rfl

/-- An escaped text as content adds the text. -/
theorem text?_ofRun_append (text : String) (content : List Content) :
    text? (Content.ofRun (Utf8.encode (escape text)) ++ content)
      = inRow (some text) (text? content) :=
  text?_ofRun_of_characters (characters_encode_escape text) content

/-- The text that a written node adds to the text around it. -/
def nodeText? : Node → Option String
  | .text characters => some characters
  | .empty name attributes => characters? (.empty (Tag.ofName name attributes))
  | .element .. => some ""

/-- The texts of written nodes in a row, if there are all. -/
def nodeTexts? (nodes : List Node) : Option String :=
  (nodes.mapM nodeText?).map String.join

theorem nodeTexts?_cons (node : Node) (nodes : List Node) :
    nodeTexts? (node :: nodes) = inRow (nodeText? node) (nodeTexts? nodes) := by
  unfold nodeTexts? inRow
  rw [List.mapM_cons]
  cases nodeText? node with
  | none => rfl
  | some s =>
    cases List.mapM nodeText? nodes with
    | none => rfl
    | some rest => exact congrArg some String.join_cons

/-- Written nodes have the text they were written from, behind the text that is still open. -/
theorem text?_ofNodes (open_ : String) (nodes : List Node) :
    text? (Content.ofNodes (Utf8.encode (escape open_)) nodes)
      = inRow (some open_) (nodeTexts? nodes) := by
  have hFresh : Utf8.encode (escape "") = [] := rfl
  -- texts in a row are one text in the document, so the text read so far is carried along
  induction nodes generalizing open_ with
  | nil =>
    rw [Content.ofNodes, ← List.append_nil (Content.ofRun _), text?_ofRun_append]
    rfl
  | cons node nodes ih =>
    have hRest := ih ""
    rw [hFresh, nothing_inRow] at hRest
    rw [nodeTexts?_cons]
    cases node with
    | text characters =>
      rw [Content.ofNodes, ← Utf8.encode_append, ← escape_append, ih, ← inRow_assoc]
      rfl
    | empty name attributes | element name attributes children =>
      rw [Content.ofNodes, text?_ofRun_append, text?_cons, hRest]
      rfl

/-! ## Characters that cannot stand in text -/

/-- The value of a `byte` element is read as the character of its number. -/
theorem byteValue?_of_isByteValue {value : String} {c : Char} (h : IsByteValue value c.toNat) :
    byteValue? value = some c := by
  obtain ⟨hScalar, hLimit⟩ := isScalar_toNat c
  unfold byteValue?
  cases h with
  | decimal hDigits =>
    -- so the value has neither of the two marks
    have hHex : 'x' ∉ value.toList := Numeral.x_not_mem_of_denotes hDigits
    split
    · rename_i hList
      simp [hList] at hHex
    · rename_i hList
      simp [hList] at hHex
    · simp [Numeral.signedPlus_of_denotes hDigits hLimit, hScalar, Char.ofNat_toNat]
  | @hexadecimal digits _ hDigits =>
    have hList : ("x" ++ digits).toList = 'x' :: digits.toList := by simp
    simp [hList, Numeral.signedPlus_of_denotes hDigits hLimit, hScalar, Char.ofNat_toNat]
  | @prefixed digits _ hDigits =>
    have hList : ("0x" ++ digits).toList = '0' :: 'x' :: digits.toList := by simp
    simp [hList, Numeral.signedPlus_of_denotes hDigits hLimit, hScalar, Char.ofNat_toNat]

/-- The number in a `byte` element names the character it was written for. -/
theorem byteValue?_byteValue (c : Char) : byteValue? (byteValue c) = some c :=
  byteValue?_of_isByteValue (.hexadecimal (Numeral.denotes_hex c.toNat))

/-- A written `byte` element is read as the character its value names. -/
theorem characters?_byte (value : String) :
    characters? (.empty (Tag.ofName "byte" [("value", value)]))
      = (byteValue? value).map Char.toString := by
  have hName : IsWord "byte" := by decide
  have hWritable : AreWritable [("value", value)] := areWritable_singleton (by decide) value
  rw [characters?, label_ofName hName, if_pos rfl, byte?, attribute?_ofName hName hWritable]
  simp

theorem nodeText?_node (piece : Piece) :
    nodeText? piece.node = some (String.ofList piece.characters) := by
  cases piece with
  | run characters => rfl
  | forbidden c =>
    rw [Piece.node, nodeText?, characters?_byte, byteValue?_byteValue]
    simp [Piece.characters]

/-- A written text is read as the text. -/
theorem text?_textNodes (s : String) : text? (Content.ofNodes [] (textNodes s)) = some s := by
  have hFresh : [] = Utf8.encode (escape "") := rfl
  -- every part has its characters as text, and the parts in a row are the text
  have hJoin : String.join ((pieces s.toList).map fun piece => String.ofList piece.characters)
      = s := by
    rw [← String.toList_inj, String.toList_join, List.flatMap_map]
    simp only [String.toList_ofList]
    exact flatMap_pieces s.toList
  rw [hFresh, text?_ofNodes, nothing_inRow, nodeTexts?, textNodes_eq, mapM_map_eq_some nodeText?_node,
    Option.map_some, hJoin]

end Linguist.Ts
