import Linguist.Proofs.Xml.Reference
import Linguist.Xml.Node

/-!
# Linguist — written attributes are read back

A tag written from a name and a list of attributes has that name and those
attributes. The keys must be words of ASCII letters, no two of them equal; the
values are any texts, because escaping leaves no quote in them.

* `Tag.ofName` is the tag as it is written.
* `attributes_ofName` — its attributes are the written ones and there is no fault.
* `find_ofName` — the value of a key is the one it was written with.
-/

namespace Linguist.Xml

/-! ## Words -/

/-- An ASCII letter. -/
def isLetter (b : UInt8) : Bool :=
  (0x41 ≤ b && b ≤ 0x5A) || (0x61 ≤ b && b ≤ 0x7A)

/-- A word of ASCII letters, as all names of elements and attributes are. -/
structure IsWord (name : String) : Prop where
  nonempty : Utf8.encode name ≠ []
  letters : ∀ b ∈ Utf8.encode name, isLetter b = true

instance (name : String) : Decidable (IsWord name) :=
  decidable_of_iff (Utf8.encode name ≠ [] ∧ (Utf8.encode name).all isLetter = true)
    ⟨fun h => ⟨h.1, List.all_eq_true.mp h.2⟩, fun h => ⟨h.1, List.all_eq_true.mpr h.2⟩⟩

/-- A letter is none of the bytes that mean something inside a tag. -/
theorem ne_of_isLetter {b : UInt8} (h : isLetter b = true) :
    isAsciiBlank b = false ∧ isMark b = false ∧ b ≠ 0x3D ∧ b ≠ 0x2F ∧ b ≠ 0x21 ∧ b ≠ 0x3F := by
  -- bytes are few enough to try them all
  have hAll : ∀ n : Fin 256, isLetter (UInt8.ofNat n) = true →
      isAsciiBlank (UInt8.ofNat n) = false ∧ isMark (UInt8.ofNat n) = false ∧
        UInt8.ofNat n ≠ 0x3D ∧ UInt8.ofNat n ≠ 0x2F ∧ UInt8.ofNat n ≠ 0x21 ∧
        UInt8.ofNat n ≠ 0x3F := by
    decide +kernel
  have hb := hAll ⟨b.toNat, b.toNat_lt⟩
  rw [UInt8.ofNat_toNat] at hb
  exact hb h

theorem IsWord.exists_first {name : String} (h : IsWord name) :
    ∃ first letters, Utf8.encode name = first :: letters ∧ isLetter first = true ∧
      ∀ b ∈ letters, isLetter b = true := by
  obtain ⟨first, letters, hSplit⟩ := List.exists_cons_of_ne_nil h.nonempty
  have hLetters := h.letters
  rw [hSplit] at hLetters
  exact ⟨first, letters, hSplit, hLetters first List.mem_cons_self,
    fun b hb => hLetters b (List.mem_cons_of_mem _ hb)⟩

theorem IsWord.exists_last {name : String} (h : IsWord name) :
    ∃ before last, Utf8.encode name = before ++ [last] ∧ isLetter last = true := by
  rcases List.eq_nil_or_concat (Utf8.encode name) with hNil | ⟨before, last, hSplit⟩
  · exact absurd hNil h.nonempty
  · rw [List.concat_eq_append] at hSplit
    exact ⟨before, last, hSplit, h.letters last (by simp [hSplit])⟩

/-! ## One attribute -/

namespace Attributes

variable {seen : List (Bytes × Nat)} {start offset : Nat} {key value rest : Bytes}

/-- The letters of a key. -/
theorem scanFrom_letters {letters : Bytes} (h : ∀ b ∈ letters, isLetter b = true) :
    scanFrom seen offset (.inKey start key) (letters ++ rest)
      = scanFrom seen (offset + letters.length) (.inKey start (letters.reverse ++ key)) rest := by
  -- the letters read so far are kept in reverse, so the key grows in front
  induction letters generalizing offset key with
  | nil => rfl
  | cons b letters ih =>
    obtain ⟨hBlank, -, hEquals, -⟩ := ne_of_isLetter (h b List.mem_cons_self)
    rw [List.cons_append, scanFrom]
    simp only [State.next, hEquals, hBlank, if_false, Bool.false_eq_true]
    rw [ih fun x hx => h x (List.mem_cons_of_mem _ hx)]
    simp [Nat.add_assoc, Nat.add_comm 1]

/-- A quoted value up to its closing quote. -/
theorem scanFrom_value {bytes : Bytes} (h : ∀ b ∈ bytes, isMark b = false) :
    scanFrom seen offset (.quoted 0x22 key value) (bytes ++ 0x22 :: rest)
      = let after := scanFrom seen (offset + bytes.length + 1) .between rest
        ⟨⟨key, value.reverse ++ bytes⟩ :: after.items, after.fault⟩ := by
  induction bytes generalizing offset value with
  | nil =>
    rw [List.nil_append, scanFrom]
    simp [State.next]
  | cons b bytes ih =>
    have hQuote : b ≠ 0x22 := by
      rintro rfl
      exact absurd (h _ List.mem_cons_self) (by decide)
    rw [List.cons_append, scanFrom]
    simp only [State.next, hQuote, if_false]
    rw [ih fun x hx => h x (List.mem_cons_of_mem _ hx)]
    simp [Nat.add_assoc, Nat.add_comm 1]

/-- The equals sign of a key that did not occur before. -/
theorem scanFrom_equals (hNew : ∀ entry ∈ seen, entry.1 ≠ key.reverse) :
    scanFrom seen offset (.inKey start key) (0x3D :: rest)
      = scanFrom (seen ++ [(key.reverse, start)]) (offset + 1) (.afterEquals key.reverse) rest := by
  have hFind : seen.find? (·.1 == key.reverse) = none := by
    rw [List.find?_eq_none]
    intro entry hEntry hKey
    exact hNew entry hEntry (beq_iff_eq.mp hKey)
  rw [scanFrom]
  simp [State.next, hFind]

/-- The bytes of an attribute as it is written. -/
theorem encode_renderAttribute (key value : String) :
    Utf8.encode (renderAttribute (key, value))
      = 0x20 :: Utf8.encode key ++ 0x3D :: 0x22 :: Utf8.encode (escape value) ++ [0x22] := by
  have hBlank : Utf8.encode " " = [0x20] := rfl
  have hOpen : Utf8.encode "=\"" = [0x3D, 0x22] := rfl
  have hClose : Utf8.encode "\"" = [0x22] := rfl
  simp [renderAttribute, hBlank, hOpen, hClose]

/-- A written attribute is scanned as one, and its key is known from then on. -/
theorem scanFrom_renderAttribute (offset : Nat) {name : String} (text : String) (rest : Bytes)
    (hName : IsWord name) (hNew : ∀ entry ∈ seen, entry.1 ≠ Utf8.encode name) :
    ∃ position offset', scanFrom seen offset .between
        (Utf8.encode (renderAttribute (name, text)) ++ rest)
      = let after := scanFrom (seen ++ [(Utf8.encode name, position)]) offset' .between rest
        ⟨⟨Utf8.encode name, Utf8.encode (escape text)⟩ :: after.items, after.fault⟩ := by
  obtain ⟨first, letters, hSplit, hLetter, hLetters⟩ := hName.exists_first
  obtain ⟨hFirst, -⟩ := ne_of_isLetter hLetter
  have hValue : ∀ b ∈ Utf8.encode (escape text), isMark b = false := fun b hb =>
    isMark_of_mem_encode_escape hb
  have hKey : (letters.reverse ++ [first]).reverse = Utf8.encode name := by simp [hSplit]
  have hBlank : isAsciiBlank 0x20 = true := rfl
  refine ⟨offset + 1,
    offset + 1 + 1 + letters.length + 1 + 1 + (Utf8.encode (escape text)).length + 1, ?_⟩
  rw [encode_renderAttribute, hSplit]
  simp only [List.cons_append, List.append_assoc, List.nil_append]
  -- the blank, then the first letter of the key, which starts it
  rw [scanFrom]
  simp only [State.next, hBlank, if_true]
  rw [scanFrom]
  simp only [State.next, hFirst, Bool.false_eq_true, if_false]
  -- the rest of the key up to the equals sign, then the quote and the value
  rw [scanFrom_letters hLetters, scanFrom_equals (by rw [hKey]; exact hNew), hKey, ← hSplit]
  rw [scanFrom]
  simp only [State.next, true_or, if_true]
  rw [scanFrom_value hValue]
  simp

end Attributes

/-! ## All attributes of a tag -/

/-- Attributes with words as keys, no two of them equal. -/
structure AreWritable (attributes : List (String × String)) : Prop where
  words : ∀ pair ∈ attributes, IsWord pair.1
  distinct : (attributes.map (·.1)).Nodup

theorem AreWritable.tail {pair : String × String} {attributes : List (String × String)}
    (h : AreWritable (pair :: attributes)) : AreWritable attributes where
  words := fun p hp => h.words p (List.mem_cons_of_mem _ hp)
  distinct := (List.nodup_cons.mp h.distinct).2

theorem areWritable_singleton {key : String} (hKey : IsWord key) (value : String) :
    AreWritable [(key, value)] where
  words := List.forall_mem_singleton.mpr hKey
  distinct := by simp

/-- A written attribute as it is scanned. -/
def Attribute.ofPair (pair : String × String) : Attribute :=
  ⟨Utf8.encode pair.1, Utf8.encode (escape pair.2)⟩

/-- Written attributes are scanned as they are, if none of their keys was seen before. -/
theorem Attributes.scanFrom_renderAttributes {attributes : List (String × String)}
    (hWritable : AreWritable attributes) (seen : List (Bytes × Nat)) (offset : Nat)
    (hNew : ∀ entry ∈ seen, ∀ pair ∈ attributes, entry.1 ≠ Utf8.encode pair.1) :
    scanFrom seen offset .between (Utf8.encode (String.join (attributes.map renderAttribute)))
      = ⟨attributes.map Attribute.ofPair, none⟩ := by
  induction attributes generalizing seen offset with
  | nil =>
    rw [List.map_nil, String.join_nil]
    rfl
  | cons pair attributes ih =>
    obtain ⟨name, text⟩ := pair
    have hHere : ∀ entry ∈ seen, entry.1 ≠ Utf8.encode name := fun entry hEntry =>
      hNew entry hEntry (name, text) List.mem_cons_self
    obtain ⟨position, offset', hHead⟩ := scanFrom_renderAttribute offset text
      (Utf8.encode (String.join (attributes.map renderAttribute)))
      (hWritable.words _ List.mem_cons_self) hHere
    -- the key that was read now is none of the later ones
    have hTail : ∀ entry ∈ seen ++ [(Utf8.encode name, position)], ∀ pair ∈ attributes,
        entry.1 ≠ Utf8.encode pair.1 := by
      intro entry hEntry pair hPair
      rcases List.mem_append.mp hEntry with hSeen | hHere
      · exact hNew entry hSeen pair (List.mem_cons_of_mem _ hPair)
      · rw [List.mem_singleton] at hHere
        subst hHere
        intro hEq
        have hName : name = pair.1 := Utf8.encode_injective hEq
        apply (List.nodup_cons.mp hWritable.distinct).1
        exact List.mem_map.mpr ⟨pair, hPair, hName.symm⟩
    rw [List.map_cons, String.join_cons, Utf8.encode_append, hHead]
    simp only [ih hWritable.tail _ _ hTail]
    rfl

/-! ## Written tags -/

/-- The tag of an element with attributes as it is written. -/
def Tag.ofName (name : String) (attributes : List (String × String)) : Tag :=
  ⟨Utf8.encode (renderTag name attributes)⟩

section Written

variable {name : String} {attributes : List (String × String)}

/-- What is written behind the name starts with a blank. -/
theorem takeWhile_renderAttributes :
    (Utf8.encode (String.join (attributes.map renderAttribute))).takeWhile (!isAsciiBlank ·)
      = [] := by
  cases attributes with
  | nil =>
    rw [List.map_nil, String.join_nil]
    rfl
  | cons pair attributes =>
    rw [List.map_cons, String.join_cons, Utf8.encode_append, Attributes.encode_renderAttribute]
    rfl

theorem name_ofName (hName : IsWord name) :
    (Tag.ofName name attributes).name = Utf8.encode name := by
  have hLetters : ∀ b ∈ Utf8.encode name, (!isAsciiBlank b) = true := by
    intro b hb
    rw [(ne_of_isLetter (hName.letters b hb)).1]
    rfl
  rw [Tag.name, Tag.ofName, renderTag, Utf8.encode_append, List.takeWhile_append_of_pos hLetters,
    takeWhile_renderAttributes, List.append_nil]

@[simp] theorem label_ofName (hName : IsWord name) : (Tag.ofName name attributes).label = name := by
  rw [Tag.label, name_ofName hName, Utf8.decodeLossy_encode]

/-- The attributes of a written tag are the written ones. -/
theorem attributes_ofName (hName : IsWord name) (hWritable : AreWritable attributes) :
    (Tag.ofName name attributes).attributes = ⟨attributes.map Attribute.ofPair, none⟩ := by
  rw [Tag.attributes, name_ofName hName, Tag.ofName, renderTag, Utf8.encode_append,
    List.drop_left, Attributes.scan]
  exact Attributes.scanFrom_renderAttributes hWritable [] _ (by simp)

/-- A key has the value it was written with. -/
theorem find_ofName (hName : IsWord name) (hWritable : AreWritable attributes) (key : String) :
    (Tag.ofName name attributes).attributes.find (Utf8.encode key)
      = .ok ((attributes.lookup key).map fun value => Utf8.encode (escape value)) := by
  rw [attributes_ofName hName hWritable]
  -- what holds of all attributes is not needed any more, and would stand in the induction's way
  clear hWritable hName
  induction attributes with
  | nil => rfl
  | cons pair attributes ih =>
    obtain ⟨k, v⟩ := pair
    by_cases hKey : key = k
    · subst hKey
      simp [Attributes.find, Attribute.ofPair]
    · have hBytes : Utf8.encode k ≠ Utf8.encode key := fun h => hKey (Utf8.encode_injective h).symm
      have hLookup : ((k, v) :: attributes).lookup key = attributes.lookup key := by
        rw [List.lookup_cons, beq_eq_false_iff_ne.mpr hKey]
      rw [hLookup, ← ih]
      simp [Attributes.find, Attribute.ofPair, hBytes]

end Written

end Linguist.Xml
