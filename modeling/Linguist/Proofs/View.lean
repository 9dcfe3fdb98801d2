import Linguist.View
import Mathlib.Algebra.GroupWithZero.Nat

/-!
# Linguist — what is shown of a text

A text that fits is shown as it is, with its line feeds written as escapes. Of
any other text as much is shown as fits, and dots behind it. Characters may take
no column, so what fits is told by the widths of beginnings and not by their
lengths: where the first character stands that goes beyond the limit, everything
in front of it is kept, and no longer beginning fits, for it holds that character.

* `textWidth` — the columns of characters in a row.
* `IsLongestFit` — the longest beginning of a text that fits.
* `cutAt_of_fits` / `exists_cutAt` — a text that fits, and one that does not.
* `flattened_eq_intercalate` — line feeds are replaced, and nothing else is.
* `shown_exact` — what is shown of a text, whatever the widths of characters.
-/

namespace Linguist

/-! ## Widths -/

/-- How many columns characters take in a row. -/
def textWidth (width : Char → Nat) (cs : List Char) : Nat :=
  (cs.map width).sum

/-- The longest beginning of a text that fits. -/
structure IsLongestFit (width : Char → Nat) (limit : Nat) (text kept : List Char) : Prop where
  begins : kept <+: text
  fits : textWidth width kept ≤ limit
  longest : ∀ other, other <+: text → textWidth width other ≤ limit → other <+: kept

variable {width : Char → Nat} {limit used : Nat} {cs kept rest : List Char} {c : Char}

@[simp] theorem textWidth_nil : textWidth width [] = 0 := rfl

@[simp] theorem textWidth_cons : textWidth width (c :: cs) = width c + textWidth width cs := by
  rw [textWidth, List.map_cons, List.sum_cons]
  rfl

@[simp] theorem textWidth_append (before after : List Char) :
    textWidth width (before ++ after) = textWidth width before + textWidth width after := by
  rw [textWidth, List.map_append, List.sum_append]
  rfl

/-- What stands in front of a character that goes beyond the limit is the longest that fits. -/
theorem isLongestFit_of_next (hFits : textWidth width kept ≤ limit)
    (hNext : limit < textWidth width kept + width c) :
    IsLongestFit width limit (kept ++ c :: rest) kept where
  begins := List.prefix_append kept (c :: rest)
  fits := hFits
  longest other hBegins hOther := by
    rcases List.prefix_or_prefix_of_prefix hBegins (List.prefix_append kept (c :: rest))
      with hShorter | ⟨more, rfl⟩
    · exact hShorter
    -- a longer one goes on with that character
    have hMore : more <+: c :: rest := (List.prefix_append_right_inj kept).mp hBegins
    cases more with
    | nil => simp
    | cons d more =>
      obtain ⟨rfl, -⟩ := List.cons_prefix_cons.mp hMore
      rw [textWidth_append, textWidth_cons] at hOther
      omega

/-! ## Cutting -/

/-- What fits into the columns that are left is not cut. -/
theorem cutAt_of_fits (h : used + textWidth width cs ≤ limit) : cutAt width limit used cs = cs := by
  induction cs generalizing used with
  | nil => rfl
  | cons c cs ih =>
    rw [textWidth_cons] at h
    rw [cutAt, if_neg (by omega), ih (by omega)]

/-- What does not fit is cut in front of the first character that goes beyond the limit. -/
theorem exists_cutAt (hUsed : used ≤ limit) (h : limit < used + textWidth width cs) :
    ∃ kept c rest, cs = kept ++ c :: rest ∧ used + textWidth width kept ≤ limit ∧
      limit < used + textWidth width kept + width c ∧
      cutAt width limit used cs = kept ++ ['.', '.', '.'] := by
  induction cs generalizing used with
  | nil => exact absurd h (by simpa using hUsed)
  | cons c cs ih =>
    rw [textWidth_cons] at h
    by_cases hBeyond : limit < used + width c
    · refine ⟨[], c, cs, rfl, by simpa using hUsed, by simpa using hBeyond, ?_⟩
      rw [cutAt, if_pos hBeyond]
      rfl
    · obtain ⟨kept, d, rest, rfl, hFits, hNext, hCut⟩ :=
        ih (Nat.le_of_not_lt hBeyond) (by omega)
      refine ⟨c :: kept, d, rest, rfl, ?_, ?_, ?_⟩
      · rw [textWidth_cons]
        omega
      · rw [textWidth_cons]
        omega
      · rw [cutAt, if_neg hBeyond, hCut]
        rfl

/-- A text that does not fit is shown as the longest beginning that does, with dots behind it. -/
theorem exists_isLongestFit (h : limit < textWidth width cs) :
    ∃ kept, IsLongestFit width limit cs kept ∧
      cutAt width limit 0 cs = kept ++ ['.', '.', '.'] := by
  obtain ⟨kept, c, rest, rfl, hFits, hNext, hCut⟩ :=
    exists_cutAt (Nat.zero_le limit) (by rwa [Nat.zero_add])
  rw [Nat.zero_add] at hFits hNext
  exact ⟨kept, isLongestFit_of_next hFits hNext, hCut⟩

/-! ## Line feeds -/

/-- The lines of a text are shown in a row, with an escape between them. -/
theorem flattened_eq_intercalate (cs : List Char) :
    flattened cs = ['\\', 'n'].intercalate (cs.splitOn '\n') := by
  induction cs with
  | nil => rfl
  | cons c cs ih =>
    obtain ⟨line, lines, hLines⟩ := List.exists_cons_of_ne_nil (List.splitOn_ne_nil '\n' cs)
    unfold flattened at ih ⊢
    rw [List.flatMap_cons, ih, List.splitOn_cons_eq_if_modifyHead]
    by_cases hFeed : c = '\n'
    · rw [if_pos hFeed, if_pos (beq_iff_eq.mpr hFeed),
        List.intercalate_cons_of_ne_nil (List.splitOn_ne_nil '\n' cs)]
      rfl
    · -- the character belongs to the first of the other lines
      rw [if_neg hFeed, if_neg (mt beq_iff_eq.mp hFeed), hLines]
      cases lines <;> simp [List.intercalate_cons_cons]

theorem lineFeed_not_mem_flattened (cs : List Char) : '\n' ∉ flattened cs := by
  rw [flattened, List.mem_flatMap]
  rintro ⟨c, -, hMem⟩
  by_cases hFeed : c = '\n'
  · rw [if_pos hFeed] at hMem
    exact absurd hMem (by decide)
  · rw [if_neg hFeed, List.mem_singleton] at hMem
    exact hFeed hMem.symm

/-! ## What is shown -/

/-- **What is shown of a text.** Whatever the widths of characters: a text with its line feeds
written as escapes is shown as it is if it fits, and otherwise the longest beginning that fits is
shown with three dots behind it. So it stands on one line and takes no more columns than there are,
but for the dots. What `shown` shows is this for the columns of a terminal. -/
theorem shown_exact (width : Char → Nat) (limit : Nat) (s : String) :
    let flat := ['\\', 'n'].intercalate (s.toList.splitOn '\n')
    let out := shortened width limit s.toList
    (textWidth width flat ≤ limit ∧ out = flat ∨
      limit < textWidth width flat ∧
        ∃ kept, IsLongestFit width limit flat kept ∧ out = kept ++ ['.', '.', '.']) ∧
      '\n' ∉ out ∧
      textWidth width out ≤ limit + textWidth width ['.', '.', '.'] ∧
      (shown false s).toList = shortened columns 50 s.toList := by
  intro flat out
  have hFlat : flattened s.toList = flat := flattened_eq_intercalate s.toList
  have hFeed : '\n' ∉ flat := hFlat ▸ lineFeed_not_mem_flattened s.toList
  have hOut : cutAt width limit 0 flat = out := by rw [← hFlat]; rfl
  have hShown : (shown false s).toList = shortened columns 50 s.toList := String.toList_ofList
  rcases Nat.lt_or_ge limit (textWidth width flat) with hLong | hFits
  · obtain ⟨kept, hKept, hCut⟩ := exists_isLongestFit hLong
    have hDots : out = kept ++ ['.', '.', '.'] := hOut.symm.trans hCut
    refine ⟨.inr ⟨hLong, kept, hKept, hDots⟩, ?_, ?_, hShown⟩
    · rw [hDots, List.mem_append, not_or]
      exact ⟨fun hMem => hFeed (hKept.begins.subset hMem), by decide⟩
    · rw [hDots, textWidth_append]
      exact Nat.add_le_add_right hKept.fits _
  · have hWhole : out = flat := hOut.symm.trans (cutAt_of_fits (by rwa [Nat.zero_add]))
    refine ⟨.inl ⟨hFits, hWhole⟩, hWhole ▸ hFeed, ?_, hShown⟩
    rw [hWhole]
    exact Nat.le_trans hFits (Nat.le_add_right _ _)

/-- An accent at the border stays, and a wide character does not fit into one column. -/
example : shown false "a\n\u0301日" = "a\\n\u0301日" ∧
    shortened columns 4 "a\n\u0301日".toList = "a\\n\u0301...".toList := by
  decide +kernel

end Linguist
