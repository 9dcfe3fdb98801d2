import Linguist.Files.Action
import Linguist.Proofs.Notice

/-!
# Linguist — files that are written are read

Writing a file changes one entry, and no directory becomes a file: a path that
led to the place of the file leads there still, by the same directories. So the
bytes that were written are the bytes that are read. An action succeeds if its
parts do, one after the other, each on the files the one before left.

* `FileTree.get?_put` — one entry put in place.
* `FileTree.read_create` — reading behind writing.
* `Action.Achieves` — an action that succeeds, with one lemma for each way to combine actions.
-/

namespace Linguist

/-- The way to the file that is written at a place, if a file can be written there. -/
def Place.file? : Place → Option Way
  | .taken way (.file _) => some way
  | .free way false => some way
  | _ => none

namespace FileTree

variable {tree : FileTree} {way : Way} {entry : Entry} {content : Bytes}

/-! ## One entry -/

theorem get?_put (h : isGiven way = false) (other : Way) :
    (tree.put way entry).get? other = if other = way then some entry else tree.get? other := by
  by_cases hSame : other = way
  · subst hSame
    rw [if_pos rfl, get?, h, put]
    simp
  · have hKept : (tree.entries.filter (·.1 != way)).find? (·.1 == other)
        = tree.entries.find? (·.1 == other) := by
      rw [List.find?_filter]
      congr 1
      funext e
      by_cases hEntry : e.1 = other
      · simp [hEntry, hSame]
      · simp [hEntry]
    rw [if_neg hSame, get?, get?, put, List.find?_cons_of_neg (by simpa using Ne.symm hSame),
      hKept]

theorem isGiven_eq_false (h : tree.get? way ≠ some .dir) : isGiven way = false := by
  rw [Bool.eq_false_iff]
  intro hGiven
  rw [get?, if_pos hGiven] at h
  exact h rfl

/-! ## Paths -/

/-- A path leads somewhere if it is one and its names lead there from where it starts. -/
theorem resolve_eq_ok_iff {path : String} {place : Place} :
    tree.resolve path = .ok place ↔
      path.isEmpty = false ∧ path.toList.contains '\x00' = false ∧
        tree.follow (if Path.isAbsolute path then ["/"] else []) (Path.names path) = .ok place := by
  unfold resolve
  cases path.isEmpty with
  | true => simp
  | false => cases path.toList.contains '\x00' <;> simp

section Steps

variable {start : Way} {name : String} {rest : List String} (hHere : ¬(name = "" ∨ name = ".")) (hAbove : ¬name = "..")
  (hLong : ¬255 < name.utf8ByteSize)

include hHere hAbove hLong

/-- The name of a directory leads into it. -/
theorem follow_dir (h : tree.get? (start ++ [name]) = some .dir) :
    tree.follow start (name :: rest) = tree.follow (start ++ [name]) rest := by
  rw [follow, if_neg hHere, if_neg hAbove, if_neg hLong]
  dsimp only
  rw [h]

/-- The name of anything else leads to it. -/
theorem follow_last (h : tree.get? (start ++ [name]) = some entry) (hNot : entry ≠ .dir) :
    tree.follow start [name] = .ok (.taken (start ++ [name]) entry) := by
  rw [follow, if_neg hHere, if_neg hAbove, if_neg hLong]
  dsimp only
  rw [h]
  cases entry with
  | dir => exact absurd rfl hNot
  | file | device => rfl

/-- A name that leads to none but a directory, and anything behind it, lead nowhere but to a place
with a slash behind it. -/
theorem follow_beyond {place : Place} {next : String} (h : tree.get? (start ++ [name]) = some entry)
    (hNot : entry ≠ .dir) (hPlace : tree.follow start (name :: next :: rest) = .ok place) :
    place = .slashedFile (start ++ [name]) ∧ (next :: rest).all (·.isEmpty) = true := by
  rw [follow, if_neg hHere, if_neg hAbove, if_neg hLong] at hPlace
  dsimp only at hPlace
  rw [h] at hPlace
  cases entry with
  | dir => exact absurd rfl hNot
  | file | device =>
    dsimp only at hPlace
    rw [if_neg (by simp)] at hPlace
    split at hPlace
    · rename_i hRest
      exact ⟨(Except.ok.inj hPlace).symm, hRest⟩
    · cases hPlace

end Steps

theorem follow_put_last {start : Way} {name : String} (hHere : ¬(name = "" ∨ name = "."))
    (hAbove : name ≠ "..") (hLong : ¬255 < name.utf8ByteSize)
    (hNot : tree.get? (start ++ [name]) ≠ some .dir) :
    (tree.put (start ++ [name]) (.file content)).follow start [name]
      = .ok (.taken (start ++ [name]) (.file content)) := by
  refine follow_last hHere hAbove hLong ?_ (by simp)
  rw [get?_put (isGiven_eq_false hNot), if_pos rfl]

/-- Where a file can be written stands no directory, and names that led there lead to the file once
it is written. -/
theorem follow_put {start : Way} {names : List String} {place : Place}
    (h : tree.follow start names = .ok place) (hFile : place.file? = some way) :
    tree.get? way ≠ some .dir ∧
      (tree.put way (.file content)).follow start names = .ok (.taken way (.file content)) := by
  induction names generalizing start with
  | nil =>
    rw [follow, Except.ok.injEq] at h
    subst h
    exact absurd hFile (by simp [Place.file?])
  | cons name rest ih =>
    by_cases hHere : name = "" ∨ name = "."
    · rw [follow, if_pos hHere] at h ⊢
      exact ih h
    by_cases hAbove : name = ".."
    · rw [follow, if_neg hHere, if_pos hAbove] at h ⊢
      exact ih h
    by_cases hLong : 255 < name.utf8ByteSize
    · rw [follow, if_neg hHere, if_neg hAbove, if_pos hLong] at h
      cases h
    cases hEntry : tree.get? (start ++ [name]) with
    | none =>
      rw [follow, if_neg hHere, if_neg hAbove, if_neg hLong] at h
      dsimp only at h
      rw [hEntry] at h
      dsimp only at h
      split at h
      · -- a new name, and no slash behind it
        rw [Except.ok.injEq] at h
        subst h
        cases rest with
        | cons => exact absurd hFile (by simp [Place.file?])
        | nil =>
          obtain rfl : start ++ [name] = way := Option.some.inj hFile
          have hNot : tree.get? (start ++ [name]) ≠ some .dir := by simp [hEntry]
          exact ⟨hNot, follow_put_last hHere hAbove hLong hNot⟩
      · cases h
    | some entry =>
      by_cases hDir : entry = .dir
      · subst hDir
        rw [follow_dir hHere hAbove hLong hEntry] at h
        obtain ⟨hNot, hFollow⟩ := ih h
        refine ⟨hNot, ?_⟩
        -- the directory is not the place of the file, so it is still there
        have hApart : start ++ [name] ≠ way := by
          rintro rfl
          exact hNot hEntry
        rw [follow_dir hHere hAbove hLong]
        · exact hFollow
        · rw [get?_put (isGiven_eq_false hNot), if_neg hApart, hEntry]
      · have hNot : tree.get? (start ++ [name]) ≠ some .dir := by
          simpa [hEntry] using hDir
        cases rest with
        | nil =>
          rw [follow_last hHere hAbove hLong hEntry hDir, Except.ok.injEq] at h
          subst h
          obtain rfl : start ++ [name] = way := by
            cases entry with
            | file old => exact Option.some.inj hFile
            | dir | device => cases hFile
          exact ⟨hNot, follow_put_last hHere hAbove hLong hNot⟩
        | cons next rest =>
          obtain ⟨rfl, -⟩ := follow_beyond hHere hAbove hLong hEntry hDir h
          exact absurd hFile (by simp [Place.file?])

/-- Writing finds the place of the file and puts it there. -/
theorem create_eq_ok {path : String} {after : FileTree} (h : tree.create path content = .ok after) :
    ∃ place way, tree.resolve path = .ok place ∧ place.file? = some way ∧
      after = tree.put way (.file content) := by
  unfold create at h
  split at h
  · cases h
  · cases h
  · cases h
  · cases h
  · rename_i way old hPlace
    exact ⟨_, way, hPlace, rfl, (Except.ok.inj h).symm⟩
  · rename_i way hPlace
    exact ⟨_, way, hPlace, rfl, (Except.ok.inj h).symm⟩
  · cases h

/-- **The bytes that were written to a path are the bytes that are read from it.** -/
theorem read_create {path : String} {after : FileTree} (h : tree.create path content = .ok after) :
    after.read path = .ok content := by
  obtain ⟨place, way, hPlace, hFile, rfl⟩ := create_eq_ok h
  obtain ⟨hEmpty, hNul, hFollow⟩ := resolve_eq_ok_iff.mp hPlace
  have hThere : (tree.put way (.file content)).resolve path = .ok (.taken way (.file content)) :=
    resolve_eq_ok_iff.mpr ⟨hEmpty, hNul, (follow_put hFollow hFile).2⟩
  rw [read, find, hThere]

end FileTree

/-! ## Actions that succeed -/

namespace Action

variable {ε α β : Type} {before after : FileTree}

/-- Whether an action succeeds on a tree of files, with this result and leaving this tree. -/
def Achieves (action : Action ε α) (before : FileTree) (a : α) (after : FileTree) : Prop :=
  (action before).1 = after ∧ (action before).2.result = .ok a

theorem achieves_bind_iff {first : Action ε α} {second : α → Action ε β} {b : β} :
    (first >>= second).Achieves before b after ↔
      ∃ a middle, first.Achieves before a middle ∧ (second a).Achieves middle b after := by
  show (andThen first second).Achieves before b after ↔ _
  unfold Achieves andThen
  rcases hFirst : first before with ⟨middle, notices, result⟩
  cases result with
  | error e => simp
  | ok a =>
    constructor
    · rintro ⟨hAfter, hResult⟩
      exact ⟨a, middle, ⟨rfl, rfl⟩, hAfter, hResult⟩
    · rintro ⟨a, middle, ⟨rfl, hResult⟩, hAfter⟩
      obtain rfl := Except.ok.inj hResult
      exact hAfter

/-- A step that gives nothing, and what goes on behind it. -/
theorem achieves_then_iff {first : Action ε Unit} {second : Unit → Action ε α} {a : α} :
    (first >>= second).Achieves before a after ↔
      ∃ middle, first.Achieves before () middle ∧ (second ()).Achieves middle a after := by
  rw [achieves_bind_iff]
  exact ⟨fun ⟨⟨⟩, middle, h⟩ => ⟨middle, h⟩, fun ⟨middle, h⟩ => ⟨(), middle, h⟩⟩

theorem achieves_liftM_bind_iff {result : Except ε α} {second : α → Action ε β} {b : β} :
    ((liftM result : Action ε α) >>= second).Achieves before b after ↔
      ∃ a, result = .ok a ∧ (second a).Achieves before b after := by
  rw [achieves_bind_iff]
  constructor
  · rintro ⟨a, middle, ⟨rfl, hResult⟩, hSecond⟩
    exact ⟨a, hResult, hSecond⟩
  · rintro ⟨a, hResult, hSecond⟩
    exact ⟨a, before, ⟨rfl, hResult⟩, hSecond⟩

theorem achieves_note_iff {notice : Notice} :
    (note notice : Action ε Unit).Achieves before () after ↔ before = after := by
  show before = after ∧ Except.ok () = Except.ok () ↔ _
  simp

theorem achieves_reading_iff {look : FileTree → Logged ε α} {a : α} :
    (reading look).Achieves before a after ↔ (look before).result = .ok a ∧ before = after := by
  show before = after ∧ (look before).result = .ok a ↔ _
  rw [and_comm]

theorem achieves_mapError_iff {δ : Type} {f : ε → δ} {action : Action ε α} {a : α} :
    (action.mapError f).Achieves before a after ↔ action.Achieves before a after := by
  unfold Achieves mapError
  rcases action before with ⟨tree, notices, result⟩
  cases result with
  | error e =>
    constructor
    · rintro ⟨-, hResult⟩
      cases hResult
    · rintro ⟨-, hResult⟩
      cases hResult
  | ok b =>
    show tree = after ∧ (.ok b : Except δ α) = .ok a ↔ tree = after ∧ (.ok b : Except ε α) = .ok a
    rw [Except.ok.injEq, Except.ok.injEq]

theorem achieves_create_iff {path : String} {content : Bytes} :
    (create path content).Achieves before () after ↔ before.create path content = .ok after := by
  unfold Achieves create
  cases before.create path content with
  | ok tree => simp [Logged.ofValue]
  | error fault => simp [Logged.fail]

/-- A file that is written with a notice. -/
theorem achieves_create_note_iff {path : String} {content : Bytes} {f : IoFault → ε}
    {notice : Notice} :
    (do (create path content).mapError f; note notice : Action ε Unit).Achieves before () after ↔
      before.create path content = .ok after := by
  simp only [achieves_then_iff, achieves_mapError_iff, achieves_create_iff, achieves_note_iff,
    exists_eq_right]

/-- A file that is written with a notice is read with the bytes it was given. -/
theorem read_of_create_note {path : String} {content : Bytes} {f : IoFault → ε} {notice : Notice}
    (h : (do (create path content).mapError f; note notice : Action ε Unit).Achieves before ()
      after) : after.read path = .ok content :=
  FileTree.read_create (achieves_create_note_iff.mp h)

end Action

end Linguist
