import Linguist.Placeholder
import Mathlib.Data.String.Basic

/-!
# Linguist — the marks that stand in a text

Where a mark stands can be told without reading the text from the left: at every
percent sign that is followed by the name of an argument, with or without an `L`
in between. Reading from the left finds each of these and no others. A mark that
was found may be passed over as a whole, since there is no percent sign in what
follows its first character; this is what the induction over the text needs, and
it is also why marks never overlap. They name arguments from `%1` to `%99` and the
number a text depends on.

* `Placeholder.StandsIn` — a mark stands in a text.
* `Placeholder.mark?_eq_some_iff` — what is read behind a percent sign.
* `Placeholder.mem_extractFrom_iff` — the marks that are found in the rest of a text.
* `Placeholder.extract_exact` — the marks of a text, in order and apart from each other.
-/

namespace Linguist

/-! ## Names of arguments -/

/-- A digit that a number may begin with. -/
def IsLeadingDigit (c : Char) : Prop :=
  '1' ≤ c ∧ c ≤ '9'

instance (c : Char) : Decidable (IsLeadingDigit c) :=
  inferInstanceAs (Decidable (_ ∧ _))

theorem IsLeadingDigit.ne_count {c : Char} (h : IsLeadingDigit c) : c ≠ 'n' := by
  rintro rfl
  exact absurd h (by decide)

namespace Argument

/-- Whether what follows a percent sign begins with the name of an argument: an `n`, or a number of
one digit or two. A second digit belongs to the number wherever there is one. -/
inductive IsNamedBy : Argument → List Char → Prop
  | count (rest : List Char) : IsNamedBy .count ('n' :: rest)
  | oneDigit {d : Char} {rest : List Char} :
      IsLeadingDigit d → (∀ c ∈ rest.head?, c.isDigit = false) →
      IsNamedBy (.positional (Placeholder.digitValue d)) (d :: rest)
  | twoDigits {d e : Char} (rest : List Char) :
      IsLeadingDigit d → e.isDigit = true →
      IsNamedBy (.positional (Placeholder.digitValue d * 10 + Placeholder.digitValue e))
        (d :: e :: rest)

/-- The name of an argument. -/
def letters : Argument → List Char
  | .positional number => Nat.toDigits 10 number
  | .count => ['n']

end Argument

namespace Placeholder

/-- What a mark has behind its percent sign. -/
def behind (mark : Placeholder) : List Char :=
  (if mark.localized then ['L'] else []) ++ mark.argument.letters

/-- A mark as it is written. -/
def written (mark : Placeholder) : String :=
  String.ofList ('%' :: mark.behind)

/-- Whether a mark is the one that a percent sign with this behind it stands for. -/
def IsReadFrom (mark : Placeholder) (cs : List Char) : Prop :=
  ∃ rest, cs = (if mark.localized then ['L'] else []) ++ rest ∧ mark.argument.IsNamedBy rest

/-- Whether a mark stands in a text, at the byte it says. -/
def StandsIn (mark : Placeholder) (s : String) : Prop :=
  ∃ before after : String, s = before ++ "%" ++ after ∧ mark.offset = before.utf8ByteSize ∧
    mark.IsReadFrom after.toList

/-- Whether a percent sign with this behind it stands for a value: next, or behind an `L` that is
next, comes an `n` or a digit from `1` to `9`. -/
def Opens (cs : List Char) : Prop :=
  ∃ c rest, (cs = c :: rest ∨ cs = 'L' :: c :: rest) ∧ (c = 'n' ∨ IsLeadingDigit c)

/-! ## Digits -/

theorem isDigit_bounds {c : Char} (h : c.isDigit = true) : 0x30 ≤ c.toNat ∧ c.toNat ≤ 0x39 := by
  simp only [Char.isDigit, Bool.and_eq_true, decide_eq_true_eq, ge_iff_le,
    UInt32.le_iff_toNat_le] at h
  exact h

theorem digitValue_le {c : Char} (h : c.isDigit = true) : digitValue c ≤ 9 := by
  have hBounds := isDigit_bounds h
  unfold digitValue
  omega

/-- A digit other than zero starts a number. -/
theorem digitValue_pos {c : Char} (h : c.isDigit = true) (hZero : c ≠ '0') : 1 ≤ digitValue c := by
  have hBounds := isDigit_bounds h
  have hNe : c.toNat ≠ 0x30 := fun hEq => hZero (Char.toNat_inj.mp hEq)
  unfold digitValue
  omega

theorem isLeadingDigit_iff {c : Char} : IsLeadingDigit c ↔ c.isDigit = true ∧ c ≠ '0' := by
  have hZero : c ≠ '0' ↔ c.toNat ≠ 0x30 := not_congr Char.toNat_inj.symm
  rw [hZero]
  simp only [IsLeadingDigit, Char.isDigit, Char.le_def, UInt32.le_iff_toNat_le, Bool.and_eq_true,
    decide_eq_true_eq, ge_iff_le]
  show 0x31 ≤ c.toNat ∧ c.toNat ≤ 0x39 ↔ (0x30 ≤ c.toNat ∧ c.toNat ≤ 0x39) ∧ c.toNat ≠ 0x30
  omega

theorem digitChar_digitValue {c : Char} (h : c.isDigit = true) :
    Nat.digitChar (digitValue c) = c := by
  have hAll : ∀ value < 10, Nat.digitChar value = Char.ofNat (0x30 + value) := by decide
  have hBounds := isDigit_bounds h
  have hNumber : 0x30 + (c.toNat - 0x30) = c.toNat := by omega
  rw [digitValue, hAll _ (by omega), hNumber, Char.ofNat_toNat]

theorem ne_percent_of_isDigit {c : Char} (h : c.isDigit = true) : c ≠ '%' := by
  rintro rfl
  exact absurd h (by decide)

theorem toDigits_one {d : Char} (hd : d.isDigit = true) : Nat.toDigits 10 (digitValue d) = [d] := by
  have hHigh := digitValue_le hd
  rw [Nat.toDigits_of_lt_base (by omega), digitChar_digitValue hd]

theorem toDigits_two {d e : Char} (hd : IsLeadingDigit d) (he : e.isDigit = true) :
    Nat.toDigits 10 (digitValue d * 10 + digitValue e) = [d, e] := by
  obtain ⟨hDigit, hZero⟩ := isLeadingDigit_iff.mp hd
  have hLow := digitValue_pos hDigit hZero
  have hHigh := digitValue_le he
  have hFront : (digitValue d * 10 + digitValue e) / 10 = digitValue d := by omega
  have hLast : (digitValue d * 10 + digitValue e) % 10 = digitValue e := by omega
  rw [Nat.toDigits_of_base_le (by omega) (by omega), hFront, hLast, toDigits_one hDigit,
    digitChar_digitValue he]
  rfl

/-! ## One mark -/

/-- An argument is read just where one is named, and as far as its name goes. -/
theorem argument?_eq_some_iff {cs : List Char} {argument : Argument} {length : Nat} :
    argument? cs = some (argument, length) ↔
      argument.IsNamedBy cs ∧ length = argument.letters.length := by
  constructor
  · intro h
    unfold argument? at h
    split at h
    · cases h
    · rename_i c rest
      split at h
      · rename_i hCount
        cases h
        subst hCount
        exact ⟨.count rest, rfl⟩
      split at h
      · rename_i hFirst
        rw [Bool.and_eq_true, bne_iff_ne] at hFirst
        have hLeading := isLeadingDigit_iff.mpr hFirst
        have hOne := toDigits_one hFirst.1
        -- the number ends with the text, goes on with a second digit, or ends in front of something
        split at h
        · cases h
          exact ⟨.oneDigit hLeading (by simp), by simp [Argument.letters, hOne]⟩
        · rename_i e others
          split at h
          · rename_i hSecond
            cases h
            exact ⟨.twoDigits others hLeading hSecond,
              by simp [Argument.letters, toDigits_two hLeading hSecond]⟩
          · rename_i hSecond
            cases h
            exact ⟨.oneDigit hLeading (by simpa using hSecond), by simp [Argument.letters, hOne]⟩
      · cases h
  · rintro ⟨hName, rfl⟩
    cases hName with
    | count rest => rfl
    | @oneDigit d rest hLeading hRest =>
      obtain ⟨hDigit, hZero⟩ := isLeadingDigit_iff.mp hLeading
      have hOne := toDigits_one hDigit
      cases rest with
      | nil => simp [argument?, hDigit, hZero, hLeading.ne_count, Argument.letters, hOne]
      | cons e others =>
        have hSecond : e.isDigit = false := hRest e rfl
        simp [argument?, hDigit, hZero, hLeading.ne_count, hSecond, Argument.letters, hOne]
    | @twoDigits d e rest hLeading hSecond =>
      obtain ⟨hDigit, hZero⟩ := isLeadingDigit_iff.mp hLeading
      have hTwo := toDigits_two hLeading hSecond
      simp [argument?, hDigit, hZero, hLeading.ne_count, hSecond, Argument.letters, hTwo]

/-- A name starts what it names an argument for, and there is no percent sign in it. -/
theorem exists_of_isNamedBy {argument : Argument} {cs : List Char} (h : argument.IsNamedBy cs) :
    '%' ∉ argument.letters ∧ ∃ rest, cs = argument.letters ++ rest := by
  cases h with
  | count rest => exact ⟨by decide, rest, rfl⟩
  | @oneDigit d rest hLeading hRest =>
    have hDigit := (isLeadingDigit_iff.mp hLeading).1
    rw [Argument.letters, toDigits_one hDigit]
    exact ⟨by simp [(ne_percent_of_isDigit hDigit).symm], rest, rfl⟩
  | @twoDigits d e rest hLeading hSecond =>
    have hFirst := (isLeadingDigit_iff.mp hLeading).1
    rw [Argument.letters, toDigits_two hLeading hSecond]
    exact ⟨by simp [(ne_percent_of_isDigit hFirst).symm, (ne_percent_of_isDigit hSecond).symm],
      rest, rfl⟩

theorem not_isNamedBy_L {argument : Argument} {cs : List Char} :
    ¬ argument.IsNamedBy ('L' :: cs) := by
  intro h
  cases h with
  | oneDigit hLeading _ => exact absurd hLeading (by decide)
  | twoDigits _ hLeading _ => exact absurd hLeading (by decide)

theorem isReadFrom_L {mark : Placeholder} {cs : List Char} :
    mark.IsReadFrom ('L' :: cs) ↔ mark.localized = true ∧ mark.argument.IsNamedBy cs := by
  unfold IsReadFrom
  cases mark.localized <;> simp [not_isNamedBy_L]

theorem isReadFrom_of_ne_L {mark : Placeholder} {cs : List Char} (h : ∀ rest, cs ≠ 'L' :: rest) :
    mark.IsReadFrom cs ↔ mark.localized = false ∧ mark.argument.IsNamedBy cs := by
  unfold IsReadFrom
  cases mark.localized <;> simp [h]

/-- A mark is read just where one stands behind the percent sign, and as far as it goes. -/
theorem mark?_eq_some_iff {offset length : Nat} {cs : List Char} {mark : Placeholder} :
    mark? offset cs = some (mark, length) ↔
      mark.IsReadFrom cs ∧ mark.offset = offset ∧ length = mark.behind.length := by
  obtain ⟨argument, localized, place⟩ := mark
  unfold mark?
  -- an `L` belongs to the mark, for no name begins with one
  split
  · rename_i after
    rw [isReadFrom_L, Option.map_eq_some_iff]
    constructor
    · rintro ⟨⟨_, _⟩, hArgument, hMark⟩
      obtain ⟨hName, rfl⟩ := argument?_eq_some_iff.mp hArgument
      cases hMark
      exact ⟨⟨rfl, hName⟩, rfl, by simp [behind, Nat.add_comm]⟩
    · rintro ⟨⟨rfl, hName⟩, rfl, rfl⟩
      exact ⟨_, argument?_eq_some_iff.mpr ⟨hName, rfl⟩, by simp [behind, Nat.add_comm]⟩
  · rename_i hNone
    rw [isReadFrom_of_ne_L hNone, Option.map_eq_some_iff]
    constructor
    · rintro ⟨⟨_, _⟩, hArgument, hMark⟩
      obtain ⟨hName, rfl⟩ := argument?_eq_some_iff.mp hArgument
      cases hMark
      exact ⟨⟨rfl, hName⟩, rfl, rfl⟩
    · rintro ⟨⟨rfl, hName⟩, rfl, rfl⟩
      exact ⟨_, argument?_eq_some_iff.mpr ⟨hName, rfl⟩, rfl⟩

/-- What a mark is read from starts with what it has behind its percent sign. -/
theorem IsReadFrom.exists_rest {mark : Placeholder} {cs : List Char} (h : mark.IsReadFrom cs) :
    '%' ∉ mark.behind ∧ ∃ rest, cs = mark.behind ++ rest := by
  obtain ⟨_, rfl, hName⟩ := h
  obtain ⟨hPercent, rest, rfl⟩ := exists_of_isNamedBy hName
  refine ⟨?_, rest, (List.append_assoc _ _ _).symm⟩
  unfold behind
  split <;> simp [hPercent]

/-- Only one mark is read from a text, apart from the place where it stands. -/
theorem IsReadFrom.unique {mark other : Placeholder} {cs : List Char} (h : mark.IsReadFrom cs)
    (hOther : other.IsReadFrom cs) (hOffset : mark.offset = other.offset) : mark = other := by
  have hMark := mark?_eq_some_iff.mpr ⟨h, rfl, rfl⟩
  have hSame := mark?_eq_some_iff.mpr ⟨hOther, hOffset.symm, rfl⟩
  exact congrArg Prod.fst (Option.some.inj (hMark.symm.trans hSame))

/-- Some argument is named just where an `n` or a digit other than zero comes next. -/
theorem exists_isNamedBy_iff {cs : List Char} :
    (∃ argument : Argument, argument.IsNamedBy cs) ↔
      ∃ c rest, cs = c :: rest ∧ (c = 'n' ∨ IsLeadingDigit c) := by
  constructor
  · rintro ⟨argument, hName⟩
    cases hName with
    | count rest => exact ⟨_, rest, rfl, .inl rfl⟩
    | oneDigit hLeading _ => exact ⟨_, _, rfl, .inr hLeading⟩
    | twoDigits rest hLeading _ => exact ⟨_, _, rfl, .inr hLeading⟩
  · rintro ⟨c, rest, rfl, rfl | hLeading⟩
    · exact ⟨_, .count rest⟩
    · match rest with
      | [] => exact ⟨_, .oneDigit hLeading (by simp)⟩
      | e :: others =>
        cases hSecond : e.isDigit with
        | false => exact ⟨_, .oneDigit hLeading (by simp [hSecond])⟩
        | true => exact ⟨_, .twoDigits others hLeading hSecond⟩

/-- At any place a mark is read just if a percent sign there stands for a value. -/
theorem exists_isReadFrom_iff (offset : Nat) {cs : List Char} :
    (∃ mark : Placeholder, mark.offset = offset ∧ mark.IsReadFrom cs) ↔ Opens cs := by
  constructor
  · rintro ⟨mark, -, rest, rfl, hName⟩
    obtain ⟨c, others, rfl, hc⟩ := exists_isNamedBy_iff.mp ⟨_, hName⟩
    refine ⟨c, others, ?_, hc⟩
    cases mark.localized
    · exact .inl rfl
    · exact .inr rfl
  · rintro ⟨c, rest, hSplit, hc⟩
    obtain ⟨argument, hName⟩ := exists_isNamedBy_iff.mpr ⟨c, rest, rfl, hc⟩
    rcases hSplit with rfl | rfl
    · exact ⟨⟨argument, false, offset⟩, rfl, _, rfl, hName⟩
    · exact ⟨⟨argument, true, offset⟩, rfl, _, rfl, hName⟩

/-! ## Arguments that are found -/

theorem positional_mem_all {number : Nat} (hLow : 1 ≤ number) (hHigh : number ≤ 99) :
    .positional number ∈ Argument.all := by
  simp only [Argument.all, List.mem_append, List.mem_map, List.mem_range'_1]
  exact .inl ⟨number, by omega, rfl⟩

theorem argument?_mem_all {cs : List Char} {argument : Argument} {length : Nat}
    (h : argument? cs = some (argument, length)) : argument ∈ Argument.all := by
  unfold argument? at h
  split at h
  · cases h
  · rename_i c rest
    split at h
    · cases h
      simp [Argument.all]
    · split at h
      · rename_i hFirst
        rw [Bool.and_eq_true, bne_iff_ne] at hFirst
        have hLow := digitValue_pos hFirst.1 hFirst.2
        have hHigh := digitValue_le hFirst.1
        split at h
        · cases h
          exact positional_mem_all hLow (by omega)
        · split at h
          · rename_i hSecond
            have hSecond := digitValue_le hSecond
            cases h
            exact positional_mem_all (by omega) (by omega)
          · cases h
            exact positional_mem_all hLow (by omega)
      · cases h

theorem mark?_mem_all {offset length : Nat} {rest : List Char} {mark : Placeholder}
    (h : mark? offset rest = some (mark, length)) : mark.argument ∈ Argument.all := by
  unfold mark? at h
  -- with an `L` or without one, the mark has the argument that is read
  split at h <;>
    obtain ⟨⟨argument, taken⟩, hArgument, hMark⟩ := Option.map_eq_some_iff.mp h <;>
    cases hMark <;>
    exact argument?_mem_all hArgument

theorem extractFrom_mem_all {offset skip : Nat} {cs : List Char} {mark : Placeholder}
    (h : mark ∈ extractFrom offset skip cs) : mark.argument ∈ Argument.all := by
  fun_induction extractFrom offset skip cs with
  | case1 => cases h
  | case2 offset c rest skip ih => exact ih h
  | case3 offset rest first length hFirst ih =>
    rcases List.mem_cons.mp h with rfl | h
    · exact mark?_mem_all hFirst
    · exact ih h
  | case4 offset rest hNone ih => exact ih h
  | case5 offset c rest hPercent ih => exact ih h

/-! ## The marks of a text -/

/-- Whether a mark stands in the rest of a text that starts behind byte `offset`. -/
def StandsFrom (mark : Placeholder) (offset : Nat) (cs : List Char) : Prop :=
  ∃ before after, cs = before ++ '%' :: after ∧ mark.offset = offset + String.utf8Len before ∧
    mark.IsReadFrom after

theorem not_standsFrom_nil {mark : Placeholder} {offset : Nat} : ¬ mark.StandsFrom offset [] := by
  rintro ⟨before, after, hSplit, -⟩
  exact absurd hSplit (by simp)

/-- A mark stands at the first character of a text, which is a percent sign then, or behind it. -/
theorem standsFrom_cons {mark : Placeholder} {offset : Nat} {c : Char} {cs : List Char} :
    mark.StandsFrom offset (c :: cs) ↔
      (c = '%' ∧ mark.offset = offset ∧ mark.IsReadFrom cs) ∨
        mark.StandsFrom (offset + c.utf8Size) cs := by
  constructor
  · rintro ⟨before, after, hSplit, hOffset, hRead⟩
    cases before with
    | nil =>
      obtain ⟨rfl, rfl⟩ := List.cons.inj hSplit
      exact .inl ⟨rfl, hOffset, hRead⟩
    | cons d before =>
      obtain ⟨rfl, rfl⟩ := List.cons.inj hSplit
      exact .inr ⟨before, after, rfl, by rw [hOffset, String.utf8Len_cons]; omega, hRead⟩
  · rintro (⟨rfl, hOffset, hRead⟩ | ⟨before, after, rfl, hOffset, hRead⟩)
    · exact ⟨[], cs, rfl, hOffset, hRead⟩
    · exact ⟨c :: before, after, rfl, by rw [hOffset, String.utf8Len_cons]; omega, hRead⟩

/-- Reading the rest of a text finds the marks in it, if what is passed over is no percent sign. -/
theorem mem_extractFrom_iff {offset skip : Nat} {cs : List Char} (hSkip : '%' ∉ cs.take skip)
    {mark : Placeholder} : mark ∈ extractFrom offset skip cs ↔ mark.StandsFrom offset cs := by
  fun_induction extractFrom offset skip cs with
  | case1 => simp [not_standsFrom_nil]
  | case2 offset c rest skip ih =>
    rw [List.take_succ_cons, List.mem_cons, not_or] at hSkip
    rw [ih hSkip.2, standsFrom_cons]
    simp [Ne.symm hSkip.1]
  | case3 offset rest first length hFirst ih =>
    -- what belongs to the mark is passed over, and there is no percent sign in it
    obtain ⟨hRead, hOffset, rfl⟩ := mark?_eq_some_iff.mp hFirst
    obtain ⟨hPercent, others, rfl⟩ := hRead.exists_rest
    rw [List.mem_cons, ih (by simpa using hPercent), standsFrom_cons]
    refine or_congr_left ⟨?_, ?_⟩
    · rintro rfl
      exact ⟨rfl, hOffset, hRead⟩
    · rintro ⟨-, hSame, hMark⟩
      exact hMark.unique hRead (hSame.trans hOffset.symm)
  | case4 offset rest hNone ih =>
    rw [ih (by simp), standsFrom_cons]
    refine (or_iff_right ?_).symm
    rintro ⟨-, hOffset, hMark⟩
    rw [mark?_eq_some_iff.mpr ⟨hMark, hOffset, rfl⟩] at hNone
    cases hNone
  | case5 offset c rest hPercent ih =>
    rw [ih (by simp), standsFrom_cons]
    simp [hPercent]

/-- Marks that are found stand behind what is passed over. -/
theorem le_offset_of_mem {offset skip : Nat} {cs : List Char} {mark : Placeholder}
    (h : mark ∈ extractFrom offset skip cs) :
    offset + String.utf8Len (cs.take skip) ≤ mark.offset := by
  fun_induction extractFrom offset skip cs with
  | case1 => cases h
  | case2 offset c rest skip ih =>
    rw [List.take_succ_cons, String.utf8Len_cons]
    have hRest := ih h
    omega
  | case3 offset rest first length hFirst ih =>
    rcases List.mem_cons.mp h with rfl | h
    · rw [(mark?_eq_some_iff.mp hFirst).2.1]
      simp
    · have hRest := ih h
      simp
      omega
  | case4 offset rest hNone ih =>
    have hRest := ih h
    simp at hRest ⊢
    omega
  | case5 offset c rest hPercent ih =>
    have hRest := ih h
    simp at hRest ⊢
    omega

/-- Every mark ends where the next one begins, or in front of it. -/
theorem pairwise_extractFrom (offset skip : Nat) (cs : List Char) :
    (extractFrom offset skip cs).Pairwise fun mark later =>
      mark.offset + mark.written.utf8ByteSize ≤ later.offset := by
  fun_induction extractFrom offset skip cs with
  | case1 => exact .nil
  | case2 _ _ _ _ ih | case4 _ _ _ ih | case5 _ _ _ _ ih => exact ih
  | case3 offset rest first length hFirst ih =>
    refine List.pairwise_cons.mpr ⟨fun later hLater => ?_, ih⟩
    obtain ⟨hRead, hOffset, rfl⟩ := mark?_eq_some_iff.mp hFirst
    obtain ⟨-, others, rfl⟩ := hRead.exists_rest
    have hBehind := le_offset_of_mem hLater
    rw [List.take_left] at hBehind
    rw [written, String.utf8ByteSize_ofList, String.utf8Len_cons, hOffset]
    have hPercent : '%'.utf8Size = 1 := rfl
    omega

theorem standsIn_iff {mark : Placeholder} {s : String} :
    mark.StandsIn s ↔ mark.StandsFrom 0 s.toList := by
  constructor
  · rintro ⟨before, after, rfl, hOffset, hRead⟩
    refine ⟨before.toList, after.toList, by simp, ?_, hRead⟩
    rw [← String.utf8ByteSize_ofList, String.ofList_toList, Nat.zero_add, hOffset]
  · rintro ⟨before, after, hSplit, hOffset, hRead⟩
    refine ⟨String.ofList before, String.ofList after, ?_, ?_, by rwa [String.toList_ofList]⟩
    · rw [← String.toList_inj, hSplit]
      simp
    · rw [String.utf8ByteSize_ofList, hOffset, Nat.zero_add]

theorem mem_extract_iff {mark : Placeholder} {s : String} :
    mark ∈ extract s ↔ mark.StandsIn s := by
  rw [standsIn_iff, extract]
  exact mem_extractFrom_iff (by simp)

/-- A place in a text is known by the bytes in front of it. -/
theorem eq_of_utf8Len_eq {a b x y : List Char} (hSplit : a ++ x = b ++ y)
    (hBytes : String.utf8Len a = String.utf8Len b) : a = b ∧ x = y := by
  induction a generalizing b with
  | nil =>
    cases b with
    | nil => exact ⟨rfl, hSplit⟩
    | cons d b =>
      have hSize := d.utf8Size_pos
      simp at hBytes
      omega
  | cons c a ih =>
    cases b with
    | nil =>
      have hSize := c.utf8Size_pos
      simp at hBytes
      omega
    | cons d b =>
      obtain ⟨rfl, hRest⟩ := List.cons.inj hSplit
      obtain ⟨rfl, rfl⟩ := ih hRest (by simpa using hBytes)
      exact ⟨rfl, rfl⟩

/-- A mark that stands at a percent sign is read from what follows it. -/
theorem standsIn_at_iff {mark : Placeholder} {before after : String}
    (hOffset : mark.offset = before.utf8ByteSize) :
    mark.StandsIn (before ++ "%" ++ after) ↔ mark.IsReadFrom after.toList := by
  refine ⟨?_, fun hRead => ⟨before, after, rfl, hOffset, hRead⟩⟩
  rintro ⟨before', after', hSplit, hOffset', hRead⟩
  have hChars := congrArg String.toList hSplit
  simp only [String.toList_append, List.append_assoc] at hChars
  have hBytes : String.utf8Len before.toList = String.utf8Len before'.toList := by
    rw [← String.utf8ByteSize_ofList, ← String.utf8ByteSize_ofList, String.ofList_toList,
      String.ofList_toList, ← hOffset, hOffset']
  obtain ⟨-, hAfter⟩ := eq_of_utf8Len_eq hChars hBytes
  rwa [List.append_cancel_left hAfter]

/-- **Marks.** The marks of a text are those that stand in it: one for every percent sign with a
name behind it, an `L` in between or not, and no other. They are found in order, each is written
where it says, and none begins in front of the end of an earlier one. Numbers are at most 99. -/
theorem extract_exact (s : String) :
    (∀ mark, mark ∈ extract s ↔ mark.StandsIn s) ∧
      (∀ before after, s = before ++ "%" ++ after →
        ((∃! mark, mark ∈ extract s ∧ mark.offset = before.utf8ByteSize) ↔ Opens after.toList)) ∧
      ((extract s).Pairwise fun mark later => mark.offset < later.offset) ∧
      (∀ mark ∈ extract s, ∃ before after,
        s = before ++ mark.written ++ after ∧ mark.offset = before.utf8ByteSize) ∧
      ((extract s).Pairwise fun mark later =>
        mark.offset + mark.written.utf8ByteSize ≤ later.offset) ∧
      ∀ mark ∈ extract s, ∀ number, mark.argument = .positional number →
        1 ≤ number ∧ number ≤ 99 := by
  have hApart : (extract s).Pairwise fun mark later =>
      mark.offset + mark.written.utf8ByteSize ≤ later.offset := pairwise_extractFrom 0 0 s.toList
  refine ⟨fun mark => mem_extract_iff, ?_, hApart.imp ?_, ?_, hApart, ?_⟩
  · rintro before after rfl
    rw [← exists_isReadFrom_iff before.utf8ByteSize]
    constructor
    · rintro ⟨mark, ⟨hMark, hOffset⟩, -⟩
      exact ⟨mark, hOffset, (standsIn_at_iff hOffset).mp (mem_extract_iff.mp hMark)⟩
    · rintro ⟨mark, hOffset, hRead⟩
      refine ⟨mark, ⟨mem_extract_iff.mpr ((standsIn_at_iff hOffset).mpr hRead), hOffset⟩, ?_⟩
      rintro other ⟨hOther, hSame⟩
      have hOtherRead := (standsIn_at_iff hSame).mp (mem_extract_iff.mp hOther)
      exact hOtherRead.unique hRead (hSame.trans hOffset.symm)
  · intro mark later h
    have hPercent : '%'.utf8Size = 1 := rfl
    rw [written, String.utf8ByteSize_ofList, String.utf8Len_cons] at h
    omega
  · intro mark hMark
    obtain ⟨before, after, rfl, hOffset, hRead⟩ := mem_extract_iff.mp hMark
    obtain ⟨-, rest, hRest⟩ := hRead.exists_rest
    refine ⟨before, String.ofList rest, ?_, hOffset⟩
    rw [← String.toList_inj]
    simp [written, hRest]
  · intro mark hMark number hNumber
    have hAll : mark.argument ∈ Argument.all := extractFrom_mem_all hMark
    simp only [hNumber, Argument.all, List.mem_append, List.mem_map, List.mem_range'_1] at hAll
    rcases hAll with ⟨n, hBounds, hEq⟩ | hCount
    · cases hEq
      omega
    · simp at hCount

/-- Behind a percent sign that stands for itself, and with a digit behind it that is not part of the
number. -/
theorem extract_exact_percent :
    let s := "é%%L129%0"
    let mark : Placeholder := ⟨.positional 12, true, 3⟩
    mark ∈ extract s ∧ (∃! mark, mark ∈ extract s ∧ mark.offset = 3) ∧
      (∃ before after, s = before ++ "%L12" ++ after ∧ mark.offset = before.utf8ByteSize) ∧
      12 ≤ 99 := by
  intro s mark
  obtain ⟨hMem, hOne, -, hWritten, -, hNumber⟩ := extract_exact s
  have hMark : mark ∈ extract s := (hMem mark).mpr
    ⟨"é%", "L129%0", rfl, rfl, "129%0".toList, rfl,
      .twoDigits "9%0".toList (d := '1') (e := '2') (by decide) rfl⟩
  exact ⟨hMark, (hOne "é%" "L129%0" rfl).mpr ⟨'1', "29%0".toList, .inr rfl, .inr (by decide)⟩,
    hWritten mark hMark, (hNumber mark hMark 12 rfl).2⟩

end Placeholder

end Linguist
