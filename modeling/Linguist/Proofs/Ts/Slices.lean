import Linguist.Ts.Writer

/-!
# Linguist — where a text is cut

A text need not be taken apart into characters to be written: it is enough to
note where a stretch without forbidden characters begins, and to take the slice
up to the next forbidden character when it comes. Such a slice is told by two
numbers of bytes, and characters have one to four of them, so there is a slice
only if both numbers lead to a place between characters. They always do: the
walk has the characters in front of a place counted, those up to the beginning
of the open stretch and those in it.

* `pieces` — the parts of a text, character by character.
* `pieces_append_run` — characters that can stand in text, in front of what is cut.
* `piece?_cutsFrom` — the slices are there, and are the parts of the text.
* `textNodes_eq` — a text is written part by part.
-/

namespace Linguist.Ts

open Xml

/-! ## Parts of a text -/

/-- The parts of a text, cut at its forbidden characters. -/
def pieces : List Char → List Piece
  | [] => []
  | c :: rest =>
    if isForbidden c then .forbidden c :: pieces rest
    else
      match pieces rest with
      | .run characters :: after => .run (c :: characters) :: after
      | after => .run [c] :: after

/-- The characters of a part of a text. -/
def Piece.characters : Piece → List Char
  | .run characters => characters
  | .forbidden c => [c]

/-- A cut text is the text. -/
theorem flatMap_pieces (cs : List Char) : (pieces cs).flatMap Piece.characters = cs := by
  induction cs with
  | nil => rfl
  | cons c cs ih =>
    rw [pieces]
    split
    · rw [List.flatMap_cons, ih]
      rfl
    · -- a character that can stand in text goes in front of a run or starts one
      split
      · rename_i characters after hPieces
        rw [hPieces] at ih
        rw [List.flatMap_cons] at ih ⊢
        exact congrArg (c :: ·) ih
      · rw [List.flatMap_cons, ih]
        rfl

/-- A cut text has its forbidden characters in parts of their own. -/
theorem isForbidden_of_run_mem_pieces {cs characters : List Char}
    (h : .run characters ∈ pieces cs) : ∀ c ∈ characters, isForbidden c = false := by
  induction cs generalizing characters with
  | nil => cases h
  | cons c cs ih =>
    rw [pieces] at h
    split at h
    · rcases List.mem_cons.mp h with hRun | h
      · cases hRun
      · exact ih h
    · rename_i hAllowed
      -- the character goes in front of a run, which has none, or is a run by itself
      split at h
      · rename_i front after hPieces
        rw [hPieces] at ih
        rcases List.mem_cons.mp h with hRun | h
        · cases hRun
          exact List.forall_mem_cons.mpr ⟨by simpa using hAllowed, ih List.mem_cons_self⟩
        · exact ih (List.mem_cons_of_mem _ h)
      · rcases List.mem_cons.mp h with hRun | h
        · cases hRun
          simpa using hAllowed
        · exact ih h

/-! ## Slices -/

theorem isValid_utf8ByteSize (before after : String) :
    String.Pos.Raw.IsValid (before ++ after) ⟨before.utf8ByteSize⟩ :=
  String.Pos.Raw.isValid_iff_exists_append.mpr ⟨before, after, rfl, rfl⟩

/-- What stands between two texts is the slice that starts where the one ends. -/
theorem slice?_append (before inside after : String) :
    slice? (before ++ inside ++ after) before.utf8ByteSize
      (before.utf8ByteSize + inside.utf8ByteSize) = some inside := by
  have hStart : String.Pos.Raw.IsValid (before ++ inside ++ after) ⟨before.utf8ByteSize⟩ := by
    rw [String.append_assoc]
    exact isValid_utf8ByteSize before (inside ++ after)
  have hStop : String.Pos.Raw.IsValid (before ++ inside ++ after)
      ⟨before.utf8ByteSize + inside.utf8ByteSize⟩ := by
    rw [← String.utf8ByteSize_append]
    exact isValid_utf8ByteSize (before ++ inside) after
  have hBytes : (before ++ inside ++ after).toByteArray.extract before.utf8ByteSize
      (before.utf8ByteSize + inside.utf8ByteSize) = inside.toByteArray := by
    rw [String.toByteArray_append, String.toByteArray_append, ← String.size_toByteArray,
      ← String.size_toByteArray, ByteArray.extract_append,
      ByteArray.extract_append_eq_right rfl rfl]
    simp
  rw [slice?, dif_pos ⟨hStart, hStop, Nat.le_add_right _ _⟩, Option.some.injEq,
    ← String.toByteArray_inj, String.toByteArray_extract]
  exact hBytes

theorem isValid_of_slice? {s inside : String} {start stop : Nat}
    (h : slice? s start stop = some inside) :
    String.Pos.Raw.IsValid s ⟨start⟩ ∧ String.Pos.Raw.IsValid s ⟨stop⟩ := by
  unfold slice? at h
  split at h
  · rename_i hValid
    exact ⟨hValid.1, hValid.2.1⟩
  · cases h

/-! ## Stretches without forbidden characters -/

/-- Characters in a row as a part of a text, if there are any. -/
def Piece.ofRun (characters : List Char) : List Piece :=
  if characters.isEmpty then [] else [.run characters]

/-- Characters that can stand in text are one part if the rest does not go on with others. -/
theorem pieces_append_run {run rest : List Char} (hRun : ∀ c ∈ run, isForbidden c = false)
    (hRest : ∀ others after, pieces rest ≠ .run others :: after) :
    pieces (run ++ rest) = Piece.ofRun run ++ pieces rest := by
  induction run with
  | nil => rfl
  | cons c run ih =>
    obtain ⟨hAllowed, hRun⟩ := List.forall_mem_cons.mp hRun
    rw [List.cons_append, pieces, hAllowed, if_neg Bool.false_ne_true, ih hRun]
    cases run with
    | nil =>
      split
      · exact absurd ‹_› (hRest _ _)
      · rfl
    | cons d run => rfl

/-- The open stretch is a slice of the text unless it is empty. -/
theorem piece?_between (before run after : String) :
    (Cut.between before.utf8ByteSize (before.utf8ByteSize + run.utf8ByteSize)).map
        (Cut.piece? (before ++ run ++ after))
      = (Piece.ofRun run.toList).map some := by
  by_cases hEmpty : run = ""
  · subst hEmpty
    simp [Cut.between, Piece.ofRun]
  · have hSize : run.utf8ByteSize ≠ 0 := mt String.utf8ByteSize_eq_zero_iff.mp hEmpty
    rw [Cut.between, if_pos (by omega), Piece.ofRun, if_neg (by simpa using hEmpty),
      List.map_singleton, List.map_singleton, Cut.piece?, slice?_append]
    rfl

/-- Behind some text and an open stretch, what is cut off are the parts of the text. -/
theorem piece?_cutsFrom (before run : String) (rest : List Char)
    (hRun : ∀ c ∈ run.toList, isForbidden c = false) :
    (cutsFrom before.utf8ByteSize (before.utf8ByteSize + run.utf8ByteSize) rest).map
        (Cut.piece? (before ++ run ++ String.ofList rest))
      = (pieces (run.toList ++ rest)).map some := by
  induction rest generalizing before run with
  | nil =>
    rw [pieces_append_run hRun (by simp [pieces]), pieces, List.append_nil]
    exact piece?_between before run ""
  | cons c rest ih =>
    have hNext : before.utf8ByteSize + run.utf8ByteSize + c.utf8Size
        = before.utf8ByteSize + (run.push c).utf8ByteSize := by
      simp [Nat.add_assoc]
    have hText : before ++ run ++ String.ofList (c :: rest)
        = before ++ run.push c ++ String.ofList rest := by
      simp [← String.toList_inj]
    rw [cutsFrom]
    split
    · rename_i hForbidden
      -- the character ends the stretch, and the next one begins behind it
      have hRest := ih (before ++ run.push c) "" (by simp)
      rw [String.append_empty, ← hText, String.utf8ByteSize_append, ← hNext] at hRest
      rw [pieces_append_run hRun (by simp [pieces, hForbidden]), pieces, if_pos hForbidden,
        List.map_append, List.map_cons, List.map_append, List.map_cons, piece?_between]
      exact congrArg _ (congrArg _ hRest)
    · rename_i hAllowed
      have hLonger : ∀ d ∈ (run.push c).toList, isForbidden d = false := by
        simpa [or_imp, forall_and, hAllowed] using hRun
      have hRest := ih before (run.push c) hLonger
      rw [hNext, hText, hRest]
      simp

/-- The slices and characters that a text is cut into are the parts it is written in. -/
theorem piece?_cuts (s : String) :
    (cuts s).map (Cut.piece? s) = (pieces s.toList).map some := by
  have hAll := piece?_cutsFrom "" "" s.toList (by simp)
  rw [String.empty_append, String.empty_append, String.ofList_toList] at hAll
  exact hAll

/-- A text is written part by part. -/
theorem textNodes_eq (s : String) : textNodes s = (pieces s.toList).map Piece.node := by
  have hParts : (cuts s).filterMap (Cut.piece? s) = pieces s.toList := by
    have hMap := congrArg (List.filterMap id) (piece?_cuts s)
    simpa [List.filterMap_map] using hMap
  rw [textNodes, hParts]

/-! ## The members of a cut text -/

/-- There is something in a slice, and a character by itself cannot stand in text. -/
def Cut.IsProper : Cut → Prop
  | .slice start stop => start < stop
  | .forbidden c => isForbidden c = true

theorem isProper_of_mem_between {start stop : Nat} :
    ∀ cut ∈ Cut.between start stop, cut.IsProper := by
  intro cut hCut
  unfold Cut.between at hCut
  split at hCut
  · obtain rfl := List.mem_singleton.mp hCut
    assumption
  · cases hCut

theorem isProper_of_mem_cutsFrom {start here : Nat} {rest : List Char} :
    ∀ cut ∈ cutsFrom start here rest, cut.IsProper := by
  induction rest generalizing start here with
  | nil => exact isProper_of_mem_between
  | cons c rest ih =>
    rw [cutsFrom]
    split
    · rename_i hForbidden
      exact List.forall_mem_append.mpr
        ⟨isProper_of_mem_between, List.forall_mem_cons.mpr ⟨hForbidden, ih⟩⟩
    · exact ih

/-- A slice of a cut text is one between characters. -/
theorem isValid_of_slice_mem_cuts {s : String} {start stop : Nat}
    (h : .slice start stop ∈ cuts s) :
    String.Pos.Raw.IsValid s ⟨start⟩ ∧ String.Pos.Raw.IsValid s ⟨stop⟩ := by
  have hPart : Cut.piece? s (.slice start stop) ∈ (pieces s.toList).map some :=
    piece?_cuts s ▸ List.mem_map_of_mem h
  obtain ⟨piece, -, hPiece⟩ := List.mem_map.mp hPart
  obtain ⟨inside, hInside, -⟩ := Option.map_eq_some_iff.mp hPiece.symm
  exact isValid_of_slice? hInside

end Linguist.Ts
