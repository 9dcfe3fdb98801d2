import Linguist.Proofs.Files
import Mathlib.Data.List.Infix

/-!
# Linguist — making directories

A directory is made where there was nothing, so whatever stood in the tree stands
there still, and a path that led somewhere leads there still. The directories
that are made are those at the path and at the paths it starts with, all of them
or, if making them fails on the way, some.

* `Path.ancestors` — the paths of the directories around a file.
* `FileTree.Keeps`, `FileTree.Gains` — a tree with more entries, and one with more directories.
* `follow_of_kept` — a path that led somewhere leads there still.
* `gains_makeDirs` — the directories that are made, whether or not that succeeds.
-/

namespace Linguist

/-- The path of the directory around what a path leads to, and the paths it starts with. -/
def Path.ancestors (path : String) : List String :=
  (parent? path).toList.flatMap fun parent => (components parent).inits.map ofComponents

example : Path.ancestors "a/../b//c.ts" = ["", "a", "a/..", "a/../b"] := by decide +kernel

namespace FileTree

/-- Whether everything in a tree is in another one too, with the same content. -/
def Keeps (before after : FileTree) : Prop :=
  ∀ way entry, before.get? way = some entry → after.get? way = some entry

/-- Whether a tree has everything that another one has, and besides that only directories, each
where one of these paths leads. -/
structure Gains (paths : List String) (before after : FileTree) : Prop where
  kept : before.Keeps after
  made : ∀ way entry, after.get? way = some entry → before.get? way = some entry ∨
    entry = .dir ∧ ∃ path ∈ paths, after.resolve path = .ok (.taken way .dir)

variable {before middle after tree : FileTree} {paths : List String} {start way : Way}
  {names rest : List String} {name path : String}

/-! ## Paths in a tree that has more -/

/-- Slashes behind a directory lead nowhere else. -/
theorem follow_slashes (h : rest.all (·.isEmpty) = true) :
    tree.follow start rest = .ok (.taken start .dir) := by
  induction rest with
  | nil => rw [follow]
  | cons name rest ih =>
    rw [List.all_cons, Bool.and_eq_true, String.isEmpty_iff] at h
    rw [follow, if_pos (.inl h.1), ih h.2]

theorem follow_of_kept {entry : Entry} (hKept : before.Keeps after)
    (h : before.follow start names = .ok (.taken way entry)) :
    after.follow start names = .ok (.taken way entry) := by
  -- the walk only asks for names that are there, and these are where they were
  fun_induction follow before start names with
  | case1 =>
    rw [follow]
    exact h
  | case2 start name rest hHere ih =>
    rw [follow, if_pos hHere]
    exact ih h
  | case3 start rest hHere ih =>
    rw [follow, if_neg hHere, if_pos rfl]
    exact ih h
  | case5 start name rest hHere hAbove hLong next hNext ih =>
    rw [follow_dir hHere hAbove hLong (hKept _ _ hNext)]
    exact ih h
  | case6 start name rest hHere hAbove hLong next other hNot hNext hRest =>
    rw [List.isEmpty_iff] at hRest
    subst hRest
    rw [follow_last hHere hAbove hLong (hKept _ _ hNext) hNot]
    exact h
  | _ => cases h

theorem resolve_of_kept {entry : Entry} (hKept : before.Keeps after)
    (h : before.resolve path = .ok (.taken way entry)) :
    after.resolve path = .ok (.taken way entry) := by
  obtain ⟨hEmpty, hNul, hFollow⟩ := resolve_eq_ok_iff.mp h
  exact resolve_eq_ok_iff.mpr ⟨hEmpty, hNul, follow_of_kept hKept hFollow⟩

/-- A file that is there is still found where it was. -/
theorem find_of_kept {entry : Entry} (hKept : before.Keeps after)
    (h : before.find path = .ok entry) : after.find path = .ok entry := by
  unfold find at h
  split at h
  · rename_i way entry' hPlace
    obtain rfl := Except.ok.inj h
    rw [find, resolve_of_kept hKept hPlace]
  · cases h
  · cases h
  · cases h

/-! ## One directory -/

/-- A free place is free, and names that led to it lead to the directory that is there now. -/
theorem follow_of_free {slashed : Bool} (h : before.follow start names = .ok (.free way slashed)) :
    before.get? way = none ∧ ∀ after : FileTree, before.Keeps after →
      after.get? way = some .dir → after.follow start names = .ok (.taken way .dir) := by
  -- only a name that is not there ends the walk at a free place, with nothing but slashes behind it
  fun_induction follow before start names with
  | case2 start name rest hHere ih =>
    refine ⟨(ih h).1, fun after hKept hMade => ?_⟩
    rw [follow, if_pos hHere]
    exact (ih h).2 after hKept hMade
  | case3 start rest hHere ih =>
    refine ⟨(ih h).1, fun after hKept hMade => ?_⟩
    rw [follow, if_neg hHere, if_pos rfl]
    exact (ih h).2 after hKept hMade
  | case5 start name rest hHere hAbove hLong next hNext ih =>
    refine ⟨(ih h).1, fun after hKept hMade => ?_⟩
    rw [follow_dir hHere hAbove hLong (hKept _ _ hNext)]
    exact (ih h).2 after hKept hMade
  | case9 start name rest hHere hAbove hLong next hNext hRest =>
    obtain ⟨rfl, -⟩ := Place.free.inj (Except.ok.inj h)
    refine ⟨hNext, fun after _ hMade => ?_⟩
    rw [follow_dir hHere hAbove hLong hMade]
    exact follow_slashes hRest
  | _ => cases h

theorem Gains.refl (paths : List String) (tree : FileTree) : Gains paths tree tree :=
  ⟨fun _ _ h => h, fun _ _ h => .inl h⟩

theorem Gains.trans (hFirst : Gains paths before middle) (hLast : Gains paths middle after) :
    Gains paths before after := by
  refine ⟨fun way entry h => hLast.kept _ _ (hFirst.kept _ _ h), fun way entry h => ?_⟩
  rcases hLast.made way entry h with hMiddle | hMade
  · rcases hFirst.made way entry hMiddle with hBefore | ⟨hDir, path, hPath, hThere⟩
    · exact .inl hBefore
    · exact .inr ⟨hDir, path, hPath, resolve_of_kept hLast.kept hThere⟩
  · exact .inr hMade

theorem Gains.mono {more : List String} (h : Gains paths before after) (hMore : paths ⊆ more) :
    Gains more before after :=
  ⟨h.kept, fun way entry hAfter => (h.made way entry hAfter).imp_right
    fun ⟨hDir, path, hPath, hThere⟩ => ⟨hDir, path, hMore hPath, hThere⟩⟩

theorem gains_makeDir (h : before.makeDir path = .ok after) : Gains [path] before after := by
  unfold makeDir at h
  split at h
  · cases h
  · cases h
  · rename_i way slashed hPlace
    obtain rfl := Except.ok.inj h
    obtain ⟨hEmpty, hNul, hWay⟩ := resolve_eq_ok_iff.mp hPlace
    obtain ⟨hFree, hFollow⟩ := follow_of_free hWay
    have hNot : before.get? way ≠ some .dir := by simp [hFree]
    have hGet (other : Way) : (before.put way .dir).get? other
        = if other = way then some .dir else before.get? other :=
      get?_put (isGiven_eq_false hNot) other
    -- nothing stood at the place, so everything else is where it was
    have hKept : before.Keeps (before.put way .dir) := by
      intro other entry hOther
      have hApart : other ≠ way := by
        rintro rfl
        cases hFree.symm.trans hOther
      rw [hGet, if_neg hApart, hOther]
    refine ⟨hKept, fun other entry hOther => ?_⟩
    rw [hGet] at hOther
    split at hOther
    · rename_i hSame
      subst hSame
      have hThere := hFollow _ hKept (by rw [hGet, if_pos rfl])
      exact .inr ⟨(Option.some.inj hOther).symm, path, List.mem_singleton_self _,
        resolve_eq_ok_iff.mpr ⟨hEmpty, hNul, hThere⟩⟩
    · exact .inl hOther
  · cases h

theorem gains_ensureDir (tree : FileTree) (path : String) :
    Gains [path] tree (tree.ensureDir path).1 := by
  unfold ensureDir
  split
  · rename_i hMade
    exact gains_makeDir hMade
  · split
    · exact .refl _ _
    · exact .refl _ _

/-! ## A directory and those around it -/

theorem gains_makeDirsFrom (tree : FileTree) (names : List String) :
    Gains (names.reverse.inits.map Path.ofComponents) tree (tree.makeDirsFrom names).1 := by
  induction names with
  | nil =>
    rw [makeDirsFrom]
    exact .refl _ _
  | cons name outer ih =>
    -- the directories around come first, and they are found the same way when the last one is made
    have hOuter : outer.reverse.inits.map Path.ofComponents
        ⊆ (name :: outer).reverse.inits.map Path.ofComponents := by
      refine List.map_subset _ fun names hNames => ?_
      rw [List.mem_inits] at hNames ⊢
      rw [List.reverse_cons]
      exact hNames.trans (List.prefix_append _ _)
    have hHere : [Path.ofComponents (name :: outer).reverse]
        ⊆ (name :: outer).reverse.inits.map Path.ofComponents := by
      refine List.cons_subset.mpr ⟨?_, List.nil_subset _⟩
      exact List.mem_map_of_mem ((List.mem_inits _ _).mpr List.prefix_rfl)
    rw [makeDirsFrom]
    split
    · cases hMade : tree.makeDirsFrom outer with
      | mk middle result =>
        rw [hMade] at ih
        have hAround := ih.mono hOuter
        cases result with
        | ok => exact hAround.trans ((gains_ensureDir _ _).mono hHere)
        | error fault => exact hAround
    · exact (gains_ensureDir _ _).mono hHere

/-- **Making the directory around a file** makes nothing but directories at its ancestors, even where
it fails. -/
theorem gains_makeDirs {parent : String} (h : Path.parent? path = some parent) (tree : FileTree) :
    Gains (Path.ancestors path) tree (tree.makeDirs parent).1 := by
  have hPaths : Path.ancestors path
      = (Path.components parent).reverse.reverse.inits.map Path.ofComponents := by
    rw [Path.ancestors, h, List.reverse_reverse]
    exact List.append_nil _
  rw [hPaths]
  exact gains_makeDirsFrom tree _

end FileTree

end Linguist
