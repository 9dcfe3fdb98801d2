import Linguist.Proofs.Placeholder
import Mathlib.Data.List.Dedup
import Mathlib.Data.List.Nodup

/-!
# Linguist — what only one of two texts refers to

Two texts compare by the arguments they refer to, and by nothing else: where the
marks stand, how often and how they are written makes no difference. If the
arguments differ, each belongs to one text only and is told once, in its order;
as some argument does differ, there is always something to tell.

* `Argument.Precedes` — the order in which arguments are told.
* `Mismatch.Separates` — a mismatch tells two texts apart.
* `Placeholder.compare_exact` — a comparison, from both sides and in words.
-/

namespace Linguist

namespace Argument

/-- The order of arguments: numbers ascend, and the number a text depends on comes last. -/
def Precedes : Argument → Argument → Prop
  | .positional m, .positional n => m < n
  | .positional _, .count => True
  | .count, _ => False

theorem Precedes.ne {a b : Argument} (h : Precedes a b) : a ≠ b := by
  rintro rfl
  cases a with
  | positional number => exact Nat.lt_irrefl number h
  | count => exact h

theorem pairwise_all : all.Pairwise Precedes := by
  rw [all, List.pairwise_append]
  refine ⟨List.pairwise_map.mpr List.pairwise_lt_range', List.pairwise_singleton _ _, ?_⟩
  intro a ha b hb
  obtain ⟨number, -, rfl⟩ := List.mem_map.mp ha
  obtain rfl := List.mem_singleton.mp hb
  trivial

end Argument

namespace Placeholder

/-! ## Mismatches -/

/-- A mismatch with its two texts exchanged. -/
def Mismatch.swap (mismatch : Mismatch) : Mismatch where
  missing := mismatch.unexpected
  unexpected := mismatch.missing

/-- Whether a mismatch tells what only one of two texts refers to, each argument once and in order,
and at least one of them. -/
structure Mismatch.Separates (numerus : Bool) (source target : String) (mismatch : Mismatch) :
    Prop where
  mem_missing : ∀ argument, argument ∈ mismatch.missing ↔
    argument.IsUsedIn source ∧ ¬ argument.IsUsedIn target ∧ (numerus = true → argument ≠ .count)
  mem_unexpected : ∀ argument, argument ∈ mismatch.unexpected ↔
    argument.IsUsedIn target ∧ ¬ argument.IsUsedIn source ∧ (numerus = true → argument ≠ .count)
  nodup_missing : mismatch.missing.Nodup
  nodup_unexpected : mismatch.unexpected.Nodup
  ordered_missing : mismatch.missing.Pairwise Argument.Precedes
  ordered_unexpected : mismatch.unexpected.Pairwise Argument.Precedes
  disjoint : mismatch.missing.Disjoint mismatch.unexpected
  nonempty : mismatch.missing ≠ [] ∨ mismatch.unexpected ≠ []

/-- What is said of some arguments, if there are any. -/
def clause (word : String) (arguments : List Argument) : List String :=
  if arguments = [] then [] else [word ++ " " ++ listed arguments]

/-- In words, a mismatch that is one names no list without arguments. -/
theorem Mismatch.text_eq {mismatch : Mismatch}
    (h : mismatch.missing ≠ [] ∨ mismatch.unexpected ≠ []) :
    mismatch.text = String.intercalate "; "
      (clause "missing" mismatch.missing ++ clause "unexpected" mismatch.unexpected) := by
  obtain ⟨_ | ⟨a, missing⟩, _ | ⟨b, unexpected⟩⟩ := mismatch
  · simp at h
  all_goals rfl

/-! ## Arguments of one text -/

section OnlyIn

variable {numerus : Bool} {s t : String}

theorem mem_onlyIn_iff {argument : Argument} :
    argument ∈ onlyIn numerus s t ↔
      argument.IsUsedIn s ∧ ¬ argument.IsUsedIn t ∧ (numerus = true → argument ≠ .count) := by
  rw [onlyIn, List.mem_filter, decide_eq_true_iff]
  exact and_iff_right_of_imp fun h => mem_all_of_isUsedIn h.1

theorem pairwise_onlyIn : (onlyIn numerus s t).Pairwise Argument.Precedes :=
  Argument.pairwise_all.filter _

theorem nodup_onlyIn : (onlyIn numerus s t).Nodup :=
  pairwise_onlyIn.imp Argument.Precedes.ne

theorem disjoint_onlyIn : (onlyIn numerus s t).Disjoint (onlyIn numerus t s) := by
  intro argument hFirst hSecond
  exact (mem_onlyIn_iff.mp hSecond).2.1 (mem_onlyIn_iff.mp hFirst).1

/-- Texts that do not agree differ in some argument of the one or of the other. -/
theorem onlyIn_ne_nil_of_not_agree (h : ¬ Agree numerus s t) :
    onlyIn numerus s t ≠ [] ∨ onlyIn numerus t s ≠ [] := by
  unfold Agree at h
  push Not at h
  obtain ⟨argument, hCount, ⟨hUsed, hLacking⟩ | ⟨hLacking, hUsed⟩⟩ := h
  · exact .inl (List.ne_nil_of_mem (mem_onlyIn_iff.mpr ⟨hUsed, hLacking, hCount⟩))
  · exact .inr (List.ne_nil_of_mem (mem_onlyIn_iff.mpr ⟨hUsed, hLacking, hCount⟩))

end OnlyIn

/-! ## Comparing -/

theorem equivalence_agree (numerus : Bool) : Equivalence (Agree numerus) where
  refl _ _ _ := Iff.rfl
  symm h argument hCount := (h argument hCount).symm
  trans hFirst hSecond argument hCount := (hFirst argument hCount).trans (hSecond argument hCount)

theorem agree_comm {numerus : Bool} {s t : String} : Agree numerus s t ↔ Agree numerus t s :=
  ⟨(equivalence_agree numerus).symm, (equivalence_agree numerus).symm⟩

/-- Texts whose marks name the same arguments agree, in whatever order and however often. -/
theorem agree_of_perm {numerus : Bool} {s t : String}
    (h : ((extract s).map (·.argument)).dedup.Perm ((extract t).map (·.argument)).dedup) :
    Agree numerus s t := by
  intro argument _
  rw [← contains_iff_isUsedIn, ← contains_iff_isUsedIn, List.contains_iff_mem,
    List.contains_iff_mem, ← List.mem_dedup, h.mem_iff, List.mem_dedup]

theorem separates_of_compare {source target : String} {numerus : Bool} {mismatch : Mismatch}
    (h : compare source target numerus = some mismatch) :
    mismatch.Separates numerus source target := by
  obtain ⟨hDiffer, rfl⟩ := compare_eq_some_iff.mp h
  exact {
    mem_missing := fun _ => mem_onlyIn_iff
    mem_unexpected := fun _ => mem_onlyIn_iff
    nodup_missing := nodup_onlyIn
    nodup_unexpected := nodup_onlyIn
    ordered_missing := pairwise_onlyIn
    ordered_unexpected := pairwise_onlyIn
    disjoint := disjoint_onlyIn
    nonempty := onlyIn_ne_nil_of_not_agree hDiffer }

/-- Exchanging the texts exchanges what is missing and what is unexpected. -/
theorem compare_swap (source target : String) (numerus : Bool) :
    compare target source numerus = (compare source target numerus).map Mismatch.swap := by
  cases h : compare source target numerus with
  | none =>
    rw [compare_eq_none_iff] at h
    exact compare_eq_none_iff.mpr (agree_comm.mp h)
  | some mismatch =>
    obtain ⟨hDiffer, rfl⟩ := compare_eq_some_iff.mp h
    exact compare_eq_some_iff.mpr ⟨fun hAgree => hDiffer (agree_comm.mp hAgree), rfl⟩

/-- **Comparison.** Two texts compare well just if they refer to the same arguments; for a message
that depends on a number, that number is left out. Otherwise the mismatch tells the texts apart, and
its words name no list without arguments. The other way round it is the same with its lists
exchanged. So texts that compare well are equivalent, and it is enough for that if their marks name
the same arguments, in any order, any number of times, with an `L` or without. -/
theorem compare_exact (source target : String) (numerus : Bool) :
    (compare source target numerus = none ↔ Agree numerus source target) ∧
      (∀ mismatch, compare source target numerus = some mismatch →
        mismatch.Separates numerus source target ∧
          mismatch.text = String.intercalate "; "
            (clause "missing" mismatch.missing ++ clause "unexpected" mismatch.unexpected)) ∧
      compare target source numerus = (compare source target numerus).map Mismatch.swap ∧
      Equivalence (fun s t => compare s t numerus = none) ∧
      (((extract source).map (·.argument)).dedup.Perm
          ((extract target).map (·.argument)).dedup →
        compare source target numerus = none) := by
  refine ⟨compare_eq_none_iff, fun mismatch h => ?_, compare_swap source target numerus, ?_,
    fun h => compare_eq_none_iff.mpr (agree_of_perm h)⟩
  · have hSeparates := separates_of_compare h
    exact ⟨hSeparates, Mismatch.text_eq hSeparates.nonempty⟩
  · simp only [compare_eq_none_iff]
    exact equivalence_agree numerus

/-- Without the number the texts depend on, they differ in one argument each; and marks that are
repeated, put in another order and written with an `L` make no difference. -/
theorem compare_exact_forms :
    let mismatch : Mismatch := ⟨[.positional 1], [.positional 3]⟩
    (compare "%n: %1 %2" "%3 %L2" true = some mismatch ∧
        mismatch.Separates true "%n: %1 %2" "%3 %L2" ∧
        mismatch.text = "missing %1; unexpected %3") ∧
      compare "%n: %1 %2" "%L2 %1 %2 %n" false = none := by
  intro mismatch
  have hMismatch : compare "%n: %1 %2" "%3 %L2" true = some mismatch := by decide +kernel
  obtain ⟨-, hTells, -⟩ := compare_exact "%n: %1 %2" "%3 %L2" true
  obtain ⟨hSeparates, hText⟩ := hTells mismatch hMismatch
  obtain ⟨-, -, -, -, hSame⟩ := compare_exact "%n: %1 %2" "%L2 %1 %2 %n" false
  exact ⟨⟨hMismatch, hSeparates, hText⟩, hSame (by decide +kernel)⟩

end Placeholder

end Linguist
