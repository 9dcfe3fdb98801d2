import Linguist.Proofs.Placeholder.Extraction

/-!
# Linguist — texts that refer to the same arguments

A text refers to the arguments of the marks that stand in it. Every one of them is
in a list known beforehand, and the arguments of a text are picked out of that
list; therefore those of two texts are equal just if they have the same members.

* `Argument.IsUsedIn` — the arguments a text refers to.
* `Placeholder.compare_eq_none_iff` — two texts compare well just if they agree.
* `Placeholder.compare_eq_some_iff` — a mismatch names what only one of them refers to.
-/

namespace Linguist

/-- Whether a text refers to an argument: a mark with it stands in the text. -/
def Argument.IsUsedIn (s : String) (argument : Argument) : Prop :=
  ∃ mark : Placeholder, mark.StandsIn s ∧ mark.argument = argument

namespace Placeholder

/-- Whether two texts refer to the same arguments; where they depend on a number, one of them may
leave the number out. -/
def Agree (numerus : Bool) (source target : String) : Prop :=
  ∀ argument : Argument, (numerus = true → argument ≠ .count) →
    (argument.IsUsedIn source ↔ argument.IsUsedIn target)

/-! ## Arguments that have to agree -/

theorem contains_iff_isUsedIn {s : String} {argument : Argument} :
    ((extract s).map (·.argument)).contains argument = true ↔ argument.IsUsedIn s := by
  rw [List.contains_iff_mem, List.mem_map]
  simp only [mem_extract_iff]
  rfl

instance (s : String) (argument : Argument) : Decidable (argument.IsUsedIn s) :=
  decidable_of_iff _ contains_iff_isUsedIn

theorem mem_all_of_isUsedIn {s : String} {argument : Argument} (h : argument.IsUsedIn s) :
    argument ∈ Argument.all := by
  obtain ⟨mark, hMark, rfl⟩ := h
  exact extractFrom_mem_all (mem_extract_iff.mpr hMark)

theorem required_eq_filter (numerus : Bool) (s : String) :
    required numerus s = Argument.all.filter fun argument =>
      argument.IsUsedIn s ∧ (numerus = true → argument ≠ .count) := by
  cases numerus with
  | false =>
    refine List.filter_congr fun argument _ => ?_
    rw [Bool.eq_iff_iff, contains_iff_isUsedIn]
    simp
  | true =>
    rw [required, if_pos rfl, signature, List.filter_filter]
    refine List.filter_congr fun argument _ => ?_
    rw [Bool.eq_iff_iff, Bool.and_eq_true, contains_iff_isUsedIn]
    simp [and_comm]

theorem mem_required_iff {numerus : Bool} {s : String} {argument : Argument} :
    argument ∈ required numerus s ↔
      argument.IsUsedIn s ∧ (numerus = true → argument ≠ .count) := by
  rw [required_eq_filter, List.mem_filter, decide_eq_true_iff]
  exact and_iff_right_of_imp fun h => mem_all_of_isUsedIn h.1

/-- The arguments that have to agree stand in the order of all arguments, so they are the same just
if texts refer to the same. -/
theorem required_eq_iff {numerus : Bool} {source target : String} :
    required numerus source = required numerus target ↔ Agree numerus source target := by
  constructor
  · intro h argument hCount
    have hMem : argument ∈ required numerus source ↔ argument ∈ required numerus target := by rw [h]
    rwa [mem_required_iff, mem_required_iff, and_iff_left hCount, and_iff_left hCount] at hMem
  · intro h
    rw [required_eq_filter, required_eq_filter]
    refine List.filter_congr fun argument _ => ?_
    rw [decide_eq_decide]
    exact and_congr_left (h argument)

/-! ## Comparing -/

/-- The arguments that only the first of two texts refers to, in order. -/
def onlyIn (numerus : Bool) (s t : String) : List Argument :=
  Argument.all.filter fun argument =>
    argument.IsUsedIn s ∧ ¬ argument.IsUsedIn t ∧ (numerus = true → argument ≠ .count)

theorem filter_required (numerus : Bool) (s t : String) :
    (required numerus s).filter (!(required numerus t).contains ·) = onlyIn numerus s t := by
  rw [required_eq_filter numerus s, List.filter_filter]
  refine List.filter_congr fun argument _ => ?_
  rw [Bool.eq_iff_iff, Bool.and_eq_true, Bool.not_eq_true', ← Bool.not_eq_true,
    List.contains_iff_mem, mem_required_iff, decide_eq_true_iff, decide_eq_true_iff]
  tauto

/-- Nothing is missing and nothing unexpected just if two texts refer to the same arguments. -/
theorem compare_eq_none_iff {source target : String} {numerus : Bool} :
    compare source target numerus = none ↔ Agree numerus source target := by
  rw [← required_eq_iff]
  unfold compare
  dsimp only
  split <;> simp [*]

/-- A mismatch names what only one of the texts refers to. -/
theorem compare_eq_some_iff {source target : String} {numerus : Bool} {mismatch : Mismatch} :
    compare source target numerus = some mismatch ↔
      ¬ Agree numerus source target ∧
        mismatch = ⟨onlyIn numerus source target, onlyIn numerus target source⟩ := by
  rw [← required_eq_iff]
  unfold compare
  dsimp only
  rw [filter_required, filter_required]
  split <;> simp [*, eq_comm]

end Placeholder

end Linguist
