import Linguist.Plural.Rule

/-!
# Linguist — the form of a number

A rule gives every number one of its forms. So where as many forms are stored as
the rule has, the form of a number is among them, and none stands in for
another.

A rule asks for the last two digits of a number and whether it is one of those
below five, and for nothing else. So the numbers up to 104 show everything a rule
does, and among them there is one for each form.

* `PluralRule.formIndex_lt` — the index of a form is below the number of forms.
* `PluralRule.formIndex_congr` — numbers that no rule tells apart.
* `PluralRule.select_eq` — a form that is stored is selected.
* `PluralRule.select_exact` — what is selected for a number, and that no form is stored in vain.
-/

namespace Linguist.PluralRule

/-- Every number has one of the forms of a rule. -/
theorem formIndex_lt (rule : PluralRule) (n : Nat) : rule.formIndex n < rule.formCount := by
  cases rule <;> simp only [formIndex, formCount] <;> (repeat' split) <;> omega

/-- The form of a number is selected if it is stored. -/
theorem select_eq {rule : PluralRule} {forms : List String} {n : Nat}
    (h : rule.formIndex n < forms.length) :
    rule.select forms n = some forms[rule.formIndex n] := by
  have hMin : min (rule.formIndex n) (forms.length - 1) = rule.formIndex n := by omega
  rw [select, hMin, List.getElem?_eq_getElem h]

/-! ## Numbers that are counted alike -/

theorem endsInFew_congr {m n : Nat} (hEnd : m % 100 = n % 100) : endsInFew m = endsInFew n := by
  have hDigit : m % 10 = n % 10 := by omega
  rw [endsInFew, endsInFew, hEnd, hDigit]

/-- Numbers with the same last two digits have the same form, unless one of them is below five. -/
theorem formIndex_congr (rule : PluralRule) {m n : Nat} (hEnd : m % 100 = n % 100)
    (hSmall : m = n ∨ 5 ≤ m ∧ 5 ≤ n) : rule.formIndex m = rule.formIndex n := by
  obtain rfl | ⟨hm, hn⟩ := hSmall
  · rfl
  have hDigit : m % 10 = n % 10 := by omega
  -- the numbers that a rule names by themselves are all below five
  have hOthers : ∀ k < 5, m ≠ k ∧ n ≠ k := by omega
  have hAbove : ∀ k < 5, ¬ m ≤ k ∧ ¬ n ≤ k := by omega
  cases rule with
  | single => rfl
  | oneOther | irish => simp [formIndex, hOthers]
  | zeroOneOther | czech => simp [formIndex, hOthers, hAbove]
  | slavic => simp [formIndex, hEnd, hDigit, endsInFew_congr hEnd]
  | polish => simp [formIndex, endsInFew_congr hEnd, hOthers]
  | slovenian => simp [formIndex, hEnd]
  | lithuanian => simp [formIndex, hEnd, hDigit]
  | latvian => simp [formIndex, hEnd, hDigit, hOthers]
  | romanian => simp [formIndex, hEnd, hOthers]
  | arabic => simp [formIndex, hEnd, hAbove]

/-- A hundred more makes no difference from five on. -/
theorem formIndex_add_hundred (rule : PluralRule) {n : Nat} (h : 5 ≤ n) :
    rule.formIndex (n + 100) = rule.formIndex n :=
  rule.formIndex_congr (by omega) (by omega)

/-- The number up to 104 that has the same form by every rule. -/
def representative (n : Nat) : Nat :=
  if n < 5 then n else 5 + (n - 5) % 100

theorem representative_le (n : Nat) : representative n ≤ 104 := by
  unfold representative
  split <;> omega

theorem formIndex_representative (rule : PluralRule) (n : Nat) :
    rule.formIndex (representative n) = rule.formIndex n := by
  unfold representative
  split
  · rfl
  · exact rule.formIndex_congr (by omega) (by omega)

/-- Every form is that of some number. -/
theorem exists_formIndex_eq (rule : PluralRule) :
    ∀ index < rule.formCount, ∃ n ≤ 104, rule.formIndex n = index := by
  cases rule <;> decide +kernel

/-! ## Selecting -/

theorem select_eq_none_iff {rule : PluralRule} {forms : List String} {n : Nat} :
    rule.select forms n = none ↔ forms = [] := by
  rw [select, List.getElem?_eq_none_iff, ← List.length_eq_zero_iff]
  omega

/-- With too few forms, the last one stands in for those that are not stored. -/
theorem select_eq_getElem_min (rule : PluralRule) {forms : List String} (h : forms ≠ []) (n : Nat) :
    ∃ hMin : min (rule.formIndex n) (forms.length - 1) < forms.length,
      rule.select forms n = some forms[min (rule.formIndex n) (forms.length - 1)] := by
  have hLength : 0 < forms.length := List.length_pos_iff.mpr h
  have hMin : min (rule.formIndex n) (forms.length - 1) < forms.length := by omega
  exact ⟨hMin, List.getElem?_eq_getElem hMin⟩

/-- **Forms.** A rule has a form for every number and a number for every form, and the numbers up to
104 tell it: from five on the form comes again after a hundred. A form is selected unless none is
stored. It is the one the rule says if there are enough, and otherwise the last one may stand in for
it; with exactly as many as the rule has, each of them is selected for some number. -/
theorem select_exact (rule : PluralRule) (forms : List String) :
    (∀ n, rule.formIndex n < rule.formCount) ∧
      (∀ n, 5 ≤ n → rule.formIndex (n + 100) = rule.formIndex n) ∧
      (∀ n, representative n ≤ 104 ∧ rule.formIndex (representative n) = rule.formIndex n) ∧
      (∀ index < rule.formCount, ∃ n ≤ 104, rule.formIndex n = index) ∧
      (∀ n, rule.select forms n = none ↔ forms = []) ∧
      (rule.formCount ≤ forms.length → ∀ n, ∃ h : rule.formIndex n < forms.length,
        rule.select forms n = some forms[rule.formIndex n]) ∧
      (forms ≠ [] → ∀ n, ∃ h : min (rule.formIndex n) (forms.length - 1) < forms.length,
        rule.select forms n = some forms[min (rule.formIndex n) (forms.length - 1)]) ∧
      (forms.length = rule.formCount → ∀ index, ∀ h : index < forms.length,
        ∃ n ≤ 104, rule.select forms n = some forms[index]) := by
  have hStored : rule.formCount ≤ forms.length → ∀ n, rule.formIndex n < forms.length :=
    fun hEnough n => Nat.lt_of_lt_of_le (rule.formIndex_lt n) hEnough
  refine ⟨rule.formIndex_lt, fun n => rule.formIndex_add_hundred,
    fun n => ⟨representative_le n, rule.formIndex_representative n⟩, rule.exists_formIndex_eq,
    fun n => select_eq_none_iff, fun hEnough n => ⟨hStored hEnough n, select_eq (hStored hEnough n)⟩,
    rule.select_eq_getElem_min, fun hExact index hIndex => ?_⟩
  obtain ⟨n, hn, rfl⟩ := rule.exists_formIndex_eq index (hExact ▸ hIndex)
  exact ⟨n, hn, select_eq hIndex⟩

/-- Lithuanian counts 111 like 11, and has a number for the form of 11. -/
theorem select_exact_lithuanian :
    let forms := ["kitas", "kiti", "kitų"]
    PluralRule.lithuanian.formIndex (11 + 100) = PluralRule.lithuanian.formIndex 11 ∧
      PluralRule.lithuanian.select forms 111 = some "kitų" ∧
      ∃ n ≤ 104, PluralRule.lithuanian.select forms n = some "kiti" := by
  intro forms
  obtain ⟨-, hPeriod, -, -, -, hEnough, -, hExact⟩ := select_exact .lithuanian forms
  obtain ⟨_, hSelect⟩ := hEnough (by decide) 111
  exact ⟨hPeriod 11 (by decide), hSelect, hExact rfl 1 (by decide)⟩

end Linguist.PluralRule
