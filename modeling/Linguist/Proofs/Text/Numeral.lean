import Linguist.Text.Numeral
import Mathlib.Data.Nat.Digits.Defs

/-!
# Linguist — numerals are read as the numbers they denote

Digits may be capital or small and may have zeros in front. They are read as the
number they denote, as long as it is below the limit of the reader: no beginning
of them denotes a larger number. The digits that are written for a number are
such a numeral.

* `Denotes` — digits that denote a number.
* `unsigned_of_denotes` / `signedPlus_of_denotes` — both readers read that number.
* `denotes_toDigits` — the digits that are written for a number denote it.
-/

namespace Linguist.Numeral

/-! ## Digits of any base -/

/-- Whether digits denote a number; there must be at least one. -/
def Denotes (radix : Nat) (cs : List Char) (n : Nat) : Prop :=
  cs ≠ [] ∧ ∃ ds, cs.mapM (digit? radix) = some ds ∧ Nat.ofDigits radix ds.reverse = n

/-- The number that digits denote. -/
def number? (radix : Nat) (cs : List Char) : Option Nat :=
  if cs = [] then none else (cs.mapM (digit? radix)).map fun ds => Nat.ofDigits radix ds.reverse

theorem number?_eq_some_iff {radix n : Nat} {cs : List Char} :
    number? radix cs = some n ↔ Denotes radix cs n := by
  unfold number? Denotes
  split
  · rename_i hEmpty
    simp [hEmpty]
  · rename_i hSome
    rw [Option.map_eq_some_iff, and_iff_right hSome]

instance decidableDenotes (radix : Nat) (cs : List Char) (n : Nat) :
    Decidable (Denotes radix cs n) :=
  decidable_of_iff (number? radix cs = some n) number?_eq_some_iff

/-- A digit is an ASCII letter or one of the ten figures, and its value is below the base. -/
theorem digit?_bounds {radix d : Nat} {c : Char} (h : digit? radix c = some d) :
    d < radix ∧ ((0x30 ≤ c.toNat ∧ c.toNat ≤ 0x39) ∨ (10 ≤ d ∧
      ((0x41 ≤ c.toNat ∧ c.toNat ≤ 0x5A) ∨ (0x61 ≤ c.toNat ∧ c.toNat ≤ 0x7A)))) := by
  unfold digit? at h
  obtain ⟨hValue, hRadix⟩ := Option.filter_eq_some_iff.mp h
  refine ⟨of_decide_eq_true hRadix, ?_⟩
  split at hValue
  · exact .inl ‹_›
  split at hValue
  · cases hValue
    exact .inr ⟨by omega, .inr ‹_›⟩
  split at hValue
  · cases hValue
    exact .inr ⟨by omega, .inl ‹_›⟩
  · cases hValue

theorem exists_of_mapM_cons {α β : Type} {f : α → Option β} {a : α} {as : List α} {bs : List β}
    (h : (a :: as).mapM f = some bs) :
    ∃ b rest, f a = some b ∧ as.mapM f = some rest ∧ bs = b :: rest := by
  simp only [List.mapM_cons, Option.bind_eq_bind, Option.bind_eq_some_iff, Option.pure_def,
    Option.some.injEq] at h
  obtain ⟨b, hb, rest, hRest, rfl⟩ := h
  exact ⟨b, rest, hb, hRest, rfl⟩

/-- Digits are read behind a number as long as all of them together stay below the limit. -/
theorem digits_of_mapM {radix limit : Nat} (value : Nat) {cs : List Char} {ds : List Nat}
    (h : cs.mapM (digit? radix) = some ds)
    (hLimit : value * radix ^ ds.length + Nat.ofDigits radix ds.reverse < limit) :
    digits radix limit value cs
      = .ok (value * radix ^ ds.length + Nat.ofDigits radix ds.reverse) := by
  induction cs generalizing value ds with
  | nil =>
    obtain rfl : [] = ds := Option.some.inj h
    simp [digits]
  | cons c cs ih =>
    obtain ⟨d, rest, hDigit, hRest, rfl⟩ := exists_of_mapM_cons h
    -- the first digit moves on to the value, and the others keep their place
    have hMove : value * radix ^ (d :: rest).length + Nat.ofDigits radix (d :: rest).reverse
        = (value * radix + d) * radix ^ rest.length + Nat.ofDigits radix rest.reverse := by
      rw [List.reverse_cons, Nat.ofDigits_append, List.length_reverse, Nat.ofDigits_singleton,
        List.length_cons]
      ring
    rw [hMove] at hLimit ⊢
    have hBelow : value * radix + d < limit := by
      have hRadix := (digit?_bounds hDigit).1
      have hPower : 0 < radix ^ rest.length := Nat.pow_pos (by omega)
      have hGrows := Nat.le_mul_of_pos_right (value * radix + d) hPower
      omega
    rw [digits, hDigit]
    simp only [hBelow, if_true]
    exact ih _ hRest hLimit

/-- The number that digits denote is read if it is below the limit. -/
theorem unsigned_of_denotes {radix limit n : Nat} {cs : List Char} (h : Denotes radix cs n)
    (hLimit : n < limit) : unsigned radix limit cs = .ok n := by
  obtain ⟨hNonempty, ds, hDigits, rfl⟩ := h
  have hRead := digits_of_mapM 0 hDigits (by simpa using hLimit)
  rw [Nat.zero_mul, Nat.zero_add] at hRead
  cases cs with
  | nil => exact absurd rfl hNonempty
  | cons c cs => exact hRead

/-- No digit is a plus sign, so the reader that allows one reads the same number. -/
theorem signedPlus_of_unsigned {radix limit n : Nat} {cs : List Char}
    (h : unsigned radix limit cs = .ok n) : signedPlus radix limit cs = .ok n := by
  have hPlus : digit? radix '+' = none := by
    rw [Option.eq_none_iff_forall_ne_some]
    intro d hd
    have hBounds := (digit?_bounds hd).2
    have hCode : '+'.toNat = 0x2B := rfl
    omega
  unfold signedPlus
  split
  · simp [unsigned, digits, hPlus] at h
  · simp [unsigned, digits, hPlus] at h
  · exact h

theorem signedPlus_of_denotes {radix limit n : Nat} {cs : List Char} (h : Denotes radix cs n)
    (hLimit : n < limit) : signedPlus radix limit cs = .ok n :=
  signedPlus_of_unsigned (unsigned_of_denotes h hLimit)

theorem exists_digit_of_mem {radix n : Nat} {cs : List Char} (h : Denotes radix cs n) :
    ∀ c ∈ cs, ∃ d, digit? radix c = some d := by
  obtain ⟨-, ds, hDigits, -⟩ := h
  induction cs generalizing ds with
  | nil => exact fun c hc => absurd hc (by simp)
  | cons c cs ih =>
    obtain ⟨d, rest, hDigit, hRest, -⟩ := exists_of_mapM_cons hDigits
    exact List.forall_mem_cons.mpr ⟨⟨d, hDigit⟩, ih rest hRest⟩

/-- The mark of a hexadecimal number is no decimal digit. -/
theorem x_not_mem_of_denotes {n : Nat} {cs : List Char} (h : Denotes 10 cs n) : 'x' ∉ cs := by
  intro hMem
  obtain ⟨d, hd⟩ := exists_digit_of_mem h 'x' hMem
  have hNone : digit? 10 'x' = none := by decide
  exact absurd (hNone.symm.trans hd) (by simp)

/-! ## Written numbers -/

theorem digit?_digitChar {radix d : Nat} (hRadix : radix ≤ 16) (h : d < radix) :
    digit? radix (Nat.digitChar d) = some d := by
  have hAll : ∀ radix ≤ 16, ∀ d < radix, digit? radix (Nat.digitChar d) = some d := by decide
  exact hAll radix hRadix d h

/-- A digit behind a numeral moves it on by one place. -/
theorem Denotes.append_digit {radix n d : Nat} {cs : List Char} {c : Char} (h : Denotes radix cs n)
    (hDigit : digit? radix c = some d) : Denotes radix (cs ++ [c]) (n * radix + d) := by
  obtain ⟨-, ds, hDigits, rfl⟩ := h
  refine ⟨by simp, ds ++ [d], by simp [hDigits, hDigit], ?_⟩
  rw [List.reverse_append, List.reverse_singleton, List.singleton_append, Nat.ofDigits_cons]
  simp [Nat.mul_comm, Nat.add_comm]

/-- The digits that are written for a number denote it. -/
theorem denotes_toDigits {radix : Nat} (hTwo : 1 < radix) (hRadix : radix ≤ 16) (n : Nat) :
    Denotes radix (Nat.toDigits radix n) n := by
  -- on the number without its last digit, which stands in front
  by_cases hOne : n < radix
  · rw [Nat.toDigits_of_lt_base hOne]
    exact ⟨by simp, [n], by simp [digit?_digitChar hRadix hOne], Nat.ofDigits_singleton⟩
  · have hFront : Denotes radix (Nat.toDigits radix (n / radix)) (n / radix) :=
      denotes_toDigits hTwo hRadix (n / radix)
    have hLonger :=
      hFront.append_digit (digit?_digitChar hRadix (Nat.mod_lt n (Nat.zero_lt_of_lt hTwo)))
    rw [Nat.div_add_mod' n radix] at hLonger
    rwa [Nat.toDigits_of_base_le hTwo (Nat.not_lt.mp hOne)]
termination_by n
decreasing_by exact Nat.div_lt_self (by omega) hTwo

/-- A number in hexadecimal denotes itself. -/
theorem denotes_hex (n : Nat) : Denotes 16 (hex n).toList n := by
  rw [hex, String.toList_ofList]
  exact denotes_toDigits (by decide) (by decide) n

/-- So does a number in decimal. -/
theorem denotes_repr (n : Nat) : Denotes 10 n.repr.toList n := by
  rw [Nat.repr, String.toList_ofList]
  exact denotes_toDigits (by decide) (by decide) n

/-- A number is written in digits. -/
theorem exists_digitChar_of_mem_hexChars (n : Nat) :
    ∀ c ∈ hexChars n, ∃ d < 16, c = Nat.digitChar d := by
  unfold hexChars
  by_cases hOne : n < 16
  · rw [Nat.toDigits_of_lt_base hOne]
    exact List.forall_mem_singleton.mpr ⟨n, hOne, rfl⟩
  · have hFront := exists_digitChar_of_mem_hexChars (n / 16)
    unfold hexChars at hFront
    rw [Nat.toDigits_of_base_le (by omega) (by omega)]
    exact List.forall_mem_append.mpr
      ⟨hFront, List.forall_mem_singleton.mpr ⟨n % 16, by omega, rfl⟩⟩

theorem exists_digitChar_of_mem_hex {n : Nat} {c : Char} (h : c ∈ (hex n).toList) :
    ∃ d < 16, c = Nat.digitChar d := by
  rw [hex, String.toList_ofList] at h
  exact exists_digitChar_of_mem_hexChars n c h

/-- Letters among the digits of a written number are small. -/
theorem isUpper_of_mem_hex {n : Nat} : ∀ c ∈ (hex n).toList, c.isUpper = false := by
  have hDigit : ∀ d < 16, (Nat.digitChar d).isUpper = false := by decide
  intro c hMem
  obtain ⟨d, hLow, rfl⟩ := exists_digitChar_of_mem_hex hMem
  exact hDigit d hLow

end Linguist.Numeral
