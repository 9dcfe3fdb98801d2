import Linguist.Proofs.Text.Utf8
import Linguist.Xml.Event

/-!
# Linguist — escaped text reads as the text

Of the characters that mean something in markup, escaping leaves none; what it
writes in their place the reader resolves to them again. Nothing else is changed
on the way, so any text may be escaped, written as bytes and read.

* `characters_encode_escape` — character data reads as the text it was written from.
* `isMark_of_mem_encode_escape` — the bytes of `<`, `>` and both quotes do not occur in it.
-/

namespace Linguist.Xml

/-! ## Resolving -/

/-- What is written for a character resolves to it, and resolving goes on behind it. -/
theorem resolveFrom_escapeChar (total offset : Nat) (c : Char) (rest : List Char) :
    ∃ offset', resolveFrom total offset none (escapeChar c ++ rest)
      = (c :: ·) <$> resolveFrom total offset' none rest := by
  unfold escapeChar
  -- any other character is written as it is; only the ampersand would start a reference
  split
  case h_6 hLt hGt hAmp hApos hQuot =>
    have hc : c ≠ '&' := fun h => hAmp h
    exact ⟨offset + c.utf8Size, by simp [resolveFrom, hc]⟩
  all_goals exact ⟨_, by simp [resolveFrom, resolveName, named?]; rfl⟩

theorem resolveFrom_escapeChars (total offset : Nat) (cs : List Char) :
    resolveFrom total offset none (escapeChars cs) = .ok cs := by
  induction cs generalizing offset with
  | nil => rfl
  | cons c cs ih =>
    rw [escapeChars, List.flatMap_cons]
    obtain ⟨offset', h⟩ := resolveFrom_escapeChar total offset c (escapeChars cs)
    rw [← escapeChars, h, ih]
    rfl

/-- Resolving undoes escaping. -/
theorem resolve_escape (s : String) : resolve (escape s) = .ok s := by
  rw [resolve, escape, String.toList_ofList, resolveFrom_escapeChars]
  exact congrArg Except.ok String.ofList_toList

/-- Escaped text, written as bytes, reads as the text. -/
theorem characters_encode_escape (s : String) :
    characters (Utf8.encode (escape s)) = .ok s := by
  rw [characters, Utf8.decode_encode]
  show (resolve (escape s)).mapError Fault.reference = .ok s
  rw [resolve_escape]
  rfl

/-! ## Characters by number -/

/-- The number of a character is a scalar value below the limit of all readers. -/
theorem isScalar_toNat (c : Char) : isScalar c.toNat = true ∧ c.toNat < Numeral.limit32 := by
  have hBounds := Utf8.toNat_bounds c
  constructor
  · rw [isScalar]
    simp
    omega
  · rw [Numeral.limit32]
    omega

/-! ## Bytes that mean something in markup -/

/-- The bytes that end text, a tag or a quoted value. -/
def isMark (b : UInt8) : Bool :=
  b == 0x3C || b == 0x3E || b == 0x22 || b == 0x27

theorem forall_of_all {p : Char → Prop} [DecidablePred p] {cs : List Char}
    (h : (cs.all fun d => decide (p d)) = true) : ∀ d ∈ cs, p d := by
  intro d hd
  exact of_decide_eq_true (List.all_eq_true.mp h d hd)

theorem not_mark_of_mem_escapeChar {c d : Char} (hd : d ∈ escapeChar c) :
    d ≠ '<' ∧ d ≠ '>' ∧ d ≠ '"' ∧ d ≠ '\'' := by
  unfold escapeChar at hd
  split at hd
  case h_6 hLt hGt hAmp hApos hQuot =>
    rw [List.mem_singleton] at hd
    subst hd
    exact ⟨hLt, hGt, hQuot, hApos⟩
  all_goals
    exact forall_of_all (p := fun d => d ≠ '<' ∧ d ≠ '>' ∧ d ≠ '"' ∧ d ≠ '\'') (by decide) d hd

/-- Escaped text holds no byte that means something in markup. -/
theorem isMark_of_mem_encode_escape {s : String} {b : UInt8}
    (hb : b ∈ Utf8.encode (escape s)) : isMark b = false := by
  rw [Bool.eq_false_iff]
  intro hMark
  -- a mark is below 0x80, so it would be a character of the escaped text and not a part of one
  have hAscii : b.toNat < 0x80 := by
    unfold isMark at hMark
    simp only [Bool.or_eq_true, beq_iff_eq] at hMark
    rcases hMark with ((rfl | rfl) | rfl) | rfl <;> decide
  obtain ⟨d, hd, hdb⟩ := Utf8.exists_mem_of_mem_encode hb hAscii
  rw [escape, String.toList_ofList, escapeChars, List.mem_flatMap] at hd
  obtain ⟨c, -, hd⟩ := hd
  obtain ⟨hLt, hGt, hQuot, hApos⟩ := not_mark_of_mem_escapeChar hd
  have hEq : d = Char.ofNat b.toNat := by rw [← hdb, Char.ofNat_toNat]
  unfold isMark at hMark
  simp only [Bool.or_eq_true, beq_iff_eq] at hMark
  rcases hMark with ((rfl | rfl) | rfl) | rfl
  · exact hLt hEq
  · exact hGt hEq
  · exact hQuot hEq
  · exact hApos hEq

end Linguist.Xml
