import Linguist.Proofs.Files.Directories

/-!
# Linguist — actions that lose nothing

An action may make directories on its way and fail behind them; they stay. If all
that it does before its last step is to make directories, and its last step
changes nothing where it fails, then no file is lost by its failure and none is
new.

* `Action.Adds`, `Action.Spares` — what an action may leave behind, always and where it fails.
* `Spares.bind`, `Spares.behind` — an action that may fail behind one that makes directories, or
  behind one that changes nothing.
* `Action.Replaces` — an action that gives one file new content.
-/

namespace Linguist.Action

variable {ε δ α β : Type} {paths : List String} {action first : Action ε α} {second : α → Action ε β}

/-- Whether an action changes nothing but for directories it makes where these paths lead. -/
def Adds (paths : List String) (action : Action ε α) : Prop :=
  ∀ before : FileTree, before.Gains paths (action before).1

/-- Whether an action that fails has changed nothing but for directories where these paths lead. -/
def Spares (paths : List String) (action : Action ε α) : Prop :=
  ∀ (before : FileTree) (e : ε),
    (action before).2.result = .error e → before.Gains paths (action before).1

/-! ## Actions in a row -/

theorem Adds.spares (h : action.Adds paths) : action.Spares paths :=
  fun before _ _ => h before

theorem adds_of_alone (h : ∀ tree, (action tree).1 = tree) : action.Adds paths := by
  intro before
  rw [h]
  exact .refl _ _

theorem Adds.mapError {f : ε → δ} (h : action.Adds paths) : (action.mapError f).Adds paths := h

theorem Spares.mapError {f : ε → δ} (h : action.Spares paths) :
    (action.mapError f).Spares paths := by
  intro before e hFails
  have hBefore := h before
  unfold Action.mapError at hFails ⊢
  rcases hRun : action before with ⟨after, notices, result⟩
  rw [hRun] at hBefore hFails
  cases result with
  | error e => exact hBefore e rfl
  | ok a => cases hFails

/-- Actions in a row: the first one fails and that is all, or the other one goes on from there. -/
theorem bind_run (first : Action ε α) (second : α → Action ε β) (before : FileTree) :
    (∃ e, (first before).2.result = .error e ∧
      ((first >>= second) before).1 = (first before).1) ∨
    ∃ a, (first before).2.result = .ok a ∧
      ((first >>= second) before).1 = (second a (first before).1).1 ∧
      ((first >>= second) before).2.result = (second a (first before).1).2.result := by
  show (∃ e, _ ∧ (andThen first second before).1 = _) ∨
    ∃ a, _ ∧ (andThen first second before).1 = _ ∧ (andThen first second before).2.result = _
  unfold andThen
  rcases first before with ⟨middle, notices, result⟩
  cases result with
  | error e => exact .inl ⟨e, rfl, rfl⟩
  | ok a => exact .inr ⟨a, rfl, rfl, rfl⟩

theorem Adds.bind (hFirst : first.Adds paths) (hSecond : ∀ a, (second a).Adds paths) :
    (first >>= second).Adds paths := by
  intro before
  rcases bind_run first second before with ⟨e, -, hAfter⟩ | ⟨a, -, hAfter, -⟩
  · rw [hAfter]
    exact hFirst before
  · rw [hAfter]
    exact (hFirst before).trans (hSecond a _)

theorem Spares.bind (hFirst : first.Adds paths) (hSecond : ∀ a, (second a).Spares paths) :
    (first >>= second).Spares paths := by
  intro before e hFails
  rcases bind_run first second before with ⟨e, -, hAfter⟩ | ⟨a, -, hAfter, hResult⟩
  · rw [hAfter]
    exact hFirst before
  · rw [hAfter]
    rw [hResult] at hFails
    exact (hFirst before).trans (hSecond a _ e hFails)

/-- What cannot fail may follow, whatever it does. -/
theorem Spares.bind_sure (hFirst : first.Spares paths)
    (hSecond : ∀ a tree, ∃ b, (second a tree).2.result = .ok b) :
    (first >>= second).Spares paths := by
  intro before e hFails
  rcases bind_run first second before with ⟨e, hFirstFails, hAfter⟩ | ⟨a, -, -, hResult⟩
  · rw [hAfter]
    exact hFirst before e hFirstFails
  · obtain ⟨b, hDone⟩ := hSecond a (first before).1
    cases (hResult.trans hDone).symm.trans hFails

theorem Adds.behind (hFirst : ∀ tree, (first tree).1 = tree) (hSecond : ∀ a, (second a).Adds paths) :
    (first >>= second).Adds paths :=
  .bind (adds_of_alone hFirst) hSecond

theorem Spares.behind (hFirst : ∀ tree, (first tree).1 = tree)
    (hSecond : ∀ a, (second a).Spares paths) : (first >>= second).Spares paths :=
  .bind (adds_of_alone hFirst) hSecond

/-! ## Directories and files -/

theorem adds_makeDirs {path parent : String} (h : Path.parent? path = some parent) :
    (makeDirs parent).Adds (Path.ancestors path) :=
  fun before => FileTree.gains_makeDirs h before

theorem spares_create {path : String} {content : Bytes} : (create path content).Spares paths := by
  intro before e hFails
  unfold create at hFails ⊢
  cases hCreate : before.create path content with
  | ok after =>
    rw [hCreate] at hFails
    cases hFails
  | error fault => exact .refl _ _

theorem spares_create_note {path : String} {content : Bytes} {f : IoFault → ε} {notice : Notice} :
    (do (create path content).mapError f; note notice : Action ε Unit).Spares paths :=
  spares_create.mapError.bind_sure fun _ _ => ⟨(), rfl⟩

/-! ## Files that are replaced -/

/-- Whether an action gives a file new content that comes from the files as they were. If it fails,
nothing is lost; if there is no such content, it fails and nothing is new either. -/
structure Replaces (output : String) (content : FileTree → Bytes → Prop)
    (action : Action ε α) : Prop where
  spares : action.Spares (Path.ancestors output)
  holds : ∀ before a after, action.Achieves before a after →
    ∃ bytes, content before bytes ∧ after.read output = .ok bytes
  alone : ∀ before, (¬∃ bytes, content before bytes) → (action before).1 = before

theorem replaces_of_fails {output : String} {content : FileTree → Bytes → Prop}
    (h : ∀ tree, ∃ e, action tree = (tree, .fail e)) : action.Replaces output content := by
  have hAlone (tree : FileTree) : (action tree).1 = tree := by
    obtain ⟨e, hFails⟩ := h tree
    rw [hFails]
  refine ⟨(adds_of_alone hAlone).spares, fun before a after hAchieves => ?_, fun _ _ => hAlone _⟩
  obtain ⟨e, hFails⟩ := h before
  rw [Achieves, hFails] at hAchieves
  cases hAchieves.2

end Linguist.Action
