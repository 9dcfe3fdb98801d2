import Linguist.Files.Path

/-!
# Linguist — the steps of a path

Of the names between its slashes a path only keeps those that lead somewhere, and
it remembers where it starts. The directory around a file is reached by all steps
but the last, and the last step alone tells the stem and the extension.

* `Path.steps`, `Path.lead` — the two parts of the components.
* `steps_parent` — the steps to the directory around a file.
* `stem?_slash` — the stem of a file with an extension, in any directory.
-/

namespace Linguist

/-- What stands between two separators holds none. -/
theorem not_mem_of_mem_splitOn {separator : Char} {piece cs : List Char}
    (h : piece ∈ cs.splitOn separator) : separator ∉ piece := by
  induction cs generalizing piece with
  | nil =>
    rw [List.splitOn_nil, List.mem_singleton] at h
    subst h
    exact List.not_mem_nil
  | cons c cs ih =>
    rw [List.splitOn_cons_eq_if_modifyHead] at h
    split at h
    · rcases List.mem_cons.mp h with rfl | hRest
      · exact List.not_mem_nil
      · exact ih hRest
    · rename_i hOther
      -- the character goes in front of the first piece and changes no other
      obtain ⟨first, rest, hPieces⟩ := List.exists_cons_of_ne_nil (List.splitOn_ne_nil separator cs)
      rw [hPieces, List.modifyHead_cons, List.mem_cons] at h
      rw [hPieces] at ih
      rcases h with rfl | hRest
      · rw [List.mem_cons, not_or]
        exact ⟨fun hSame => hOther (beq_iff_eq.mpr hSame.symm), ih List.mem_cons_self⟩
      · exact ih (List.mem_cons_of_mem _ hRest)

/-! ## What stands in front of a separator -/

section Separator

variable {separator : Char} {front rest : List Char}

theorem bne_of_not_mem (h : separator ∉ front) : ∀ c ∈ front, (c != separator) = true := by
  intro c hc
  rw [bne_iff_ne]
  rintro rfl
  exact h hc

theorem takeWhile_separator (h : separator ∉ front) :
    (front ++ separator :: rest).takeWhile (· != separator) = front := by
  rw [List.takeWhile_append_of_pos (bne_of_not_mem h), List.takeWhile_cons_of_neg (by simp),
    List.append_nil]

theorem dropWhile_separator (h : separator ∉ front) :
    (front ++ separator :: rest).dropWhile (· != separator) = separator :: rest := by
  rw [List.dropWhile_append_of_pos (bne_of_not_mem h), List.dropWhile_cons_of_neg (by simp)]

end Separator

namespace Path

variable {path parent name : String}

/-! ## Names -/

theorem names_eq (path : String) : names path = (path.toList.splitOn '/').map String.ofList := by
  rw [names, List.splitOn_eq_splitOnP]

theorem names_slash (first rest : String) :
    names (first ++ "/" ++ rest) = names first ++ names rest := by
  rw [names_eq, names_eq, names_eq, String.toList_append, String.toList_append, List.append_assoc,
    show "/".toList ++ rest.toList = '/' :: rest.toList from rfl, List.splitOn_append_cons_self,
    List.map_append]

/-- A name that leads from a directory to another place. -/
structure IsStep (name : String) : Prop where
  noSlash : '/' ∉ name.toList
  nonempty : name ≠ ""
  notDot : name ≠ "."

/-- Whether a name leads somewhere. -/
def leads (name : String) : Bool :=
  name != "" && name != "."

/-- The names of a path that lead somewhere. -/
def steps (path : String) : List String :=
  (names path).filter leads

/-- Where a path starts, as its components tell it. -/
def lead (path : String) : List String :=
  if isAbsolute path then ["/"] else if (names path).head? == some "." then ["."] else []

theorem components_eq (path : String) : components path = lead path ++ steps path := by
  rw [components, lead]
  split
  · rfl
  · split <;> rfl

theorem isStep_of_mem_steps (h : name ∈ steps path) : IsStep name := by
  obtain ⟨hName, hLeads⟩ := List.mem_filter.mp h
  rw [leads, Bool.and_eq_true, bne_iff_ne, bne_iff_ne] at hLeads
  rw [names_eq] at hName
  obtain ⟨piece, hPiece, rfl⟩ := List.mem_map.mp hName
  refine ⟨?_, hLeads.1, hLeads.2⟩
  rw [String.toList_ofList]
  exact not_mem_of_mem_splitOn hPiece

theorem leads_of_isStep (h : IsStep name) : leads name = true := by
  rw [leads, Bool.and_eq_true, bne_iff_ne, bne_iff_ne]
  exact ⟨h.nonempty, h.notDot⟩

theorem steps_slash (first rest : String) :
    steps (first ++ "/" ++ rest) = steps first ++ steps rest := by
  rw [steps, names_slash, List.filter_append]
  rfl

theorem filter_leads {parts : List String} (h : ∀ part ∈ parts, IsStep part) :
    parts.filter leads = parts :=
  List.filter_eq_self.mpr fun part hPart => leads_of_isStep (h part hPart)

theorem steps_of_isStep (h : IsStep name) : steps name = [name] := by
  have hNames : names name = [name] := by
    rw [names_eq, List.splitOn_eq_singleton h.noSlash, List.map_singleton, String.ofList_toList]
  rw [steps, hNames]
  exact filter_leads (by simpa using h)

/-! ## The directory around a file -/

theorem lead_mem (path : String) : lead path ∈ [[], ["/"], ["."]] := by
  rw [lead]
  split
  · simp
  · split <;> simp

/-- The last step names the file. -/
theorem fileName?_slash {directory : String} (h : IsStep name) (hAbove : name ≠ "..") :
    fileName? (directory ++ "/" ++ name) = some name := by
  have hLast : (components (directory ++ "/" ++ name)).getLast? = some name := by
    rw [components_eq, steps_slash, steps_of_isStep h, ← List.append_assoc, List.getLast?_concat]
  have hRoot : name ≠ "/" := by
    rintro rfl
    exact h.noSlash (by decide)
  have hDot := h.notDot
  rw [fileName?, hLast]
  split <;> simp_all

theorem isStep_of_fileName? (h : fileName? path = some name) : IsStep name := by
  unfold fileName? at h
  split at h
  · cases h
  · cases h
  · cases h
  · cases h
  · rename_i last hRoot hDot _ hLast
    obtain rfl := Option.some.inj h
    have hMem := List.mem_of_getLast? hLast
    rw [components_eq, List.mem_append] at hMem
    rcases hMem with hLead | hStep
    · have hStart := lead_mem path
      simp only [List.mem_cons, List.not_mem_nil, or_false] at hStart
      rcases hStart with hLead' | hLead' | hLead' <;> simp_all
    · exact isStep_of_mem_steps hStep

/-- A name is parted at its last dot if something stands in front of it. -/
theorem partAtDot_append {stem extension : String} (hStem : stem ≠ "")
    (hDot : '.' ∉ extension.toList) :
    partAtDot (stem ++ "." ++ extension) = (stem, some extension) := by
  have hReverse : (stem ++ "." ++ extension).toList.reverse
      = extension.toList.reverse ++ '.' :: stem.toList.reverse := by
    simp
  have hPlain : '.' ∉ extension.toList.reverse := fun hc => hDot (List.mem_reverse.mp hc)
  rw [partAtDot, hReverse, takeWhile_separator hPlain, dropWhile_separator hPlain]
  split
  · rename_i hNil
    cases hNil
  · rename_i hOnly
    have hNone : stem.toList = [] := by simpa using hOnly
    exact absurd (String.toList_eq_nil_iff.mp hNone) hStem
  · rename_i hParts
    obtain ⟨-, rfl⟩ := List.cons.inj hParts
    simp

/-- The stem of a name is the name or what stands in front of a dot in it. -/
theorem fst_partAtDot (name : String) :
    (partAtDot name).1 = name ∨
      (partAtDot name).1 ≠ "" ∧ (partAtDot name).1.toList <+: name.toList := by
  rw [partAtDot]
  split
  · exact .inl rfl
  · exact .inl rfl
  · rename_i dot before hNotFirst hParts
    have hSuffix : before <:+ name.toList.reverse :=
      (List.suffix_cons dot before).trans (hParts ▸ List.dropWhile_suffix _)
    refine .inr ⟨fun hEmpty => ?_, ?_⟩
    · have hNone : before = [] := by simpa using hEmpty
      subst hNone
      have hDot := List.head?_dropWhile_not (· != '.') name.toList.reverse
      rw [hParts] at hDot
      exact hNotFirst (by simpa using hDot) rfl
    · rw [String.toList_ofList, ← List.reverse_suffix, List.reverse_reverse]
      exact hSuffix

/-- A stem is there only where a file is named, so it is not empty, and no slash parts it. -/
theorem stem_of_path {stem : String} (h : stem? path = some stem) :
    '/' ∉ stem.toList ∧ stem ≠ "" := by
  obtain ⟨name, hName, rfl⟩ := Option.map_eq_some_iff.mp h
  have hStep := isStep_of_fileName? hName
  rcases fst_partAtDot name with hWhole | ⟨hSome, hPrefix⟩
  · rw [hWhole]
    exact ⟨hStep.noSlash, hStep.nonempty⟩
  · exact ⟨fun hSlash => hStep.noSlash (hPrefix.subset hSlash), hSome⟩

/-- **The stem of a file does not depend on its directory or its extension.** -/
theorem stem?_slash {directory stem extension : String} (hSlash : '/' ∉ stem.toList)
    (hStem : stem ≠ "") (hExtension : extension ≠ "") (hOther : '/' ∉ extension.toList)
    (hDot : '.' ∉ extension.toList) :
    stem? (directory ++ "/" ++ (stem ++ "." ++ extension)) = some stem := by
  have hChars : (stem ++ "." ++ extension).toList = stem.toList ++ '.' :: extension.toList := by
    simp
  obtain ⟨first, front, hFirst⟩ :=
    List.exists_cons_of_ne_nil (fun hNone => hStem (String.toList_eq_nil_iff.mp hNone))
  obtain ⟨c, cs, hc⟩ :=
    List.exists_cons_of_ne_nil (fun hNone => hExtension (String.toList_eq_nil_iff.mp hNone))
  -- the name has three characters at least, so it is neither empty nor made of dots only
  have hLong : 3 ≤ (stem ++ "." ++ extension).toList.length := by
    rw [hChars, hFirst, hc]
    simp
    omega
  have hShort {name : String} (hLength : name.toList.length < 3) :
      stem ++ "." ++ extension ≠ name := by
    rintro rfl
    omega
  have hStep : IsStep (stem ++ "." ++ extension) := by
    refine ⟨?_, hShort (by decide), hShort (by decide)⟩
    rw [hChars, List.mem_append, List.mem_cons]
    rintro (hIn | hIn | hIn)
    · exact hSlash hIn
    · exact absurd hIn (by decide)
    · exact hOther hIn
  rw [stem?, fileName?_slash hStep (hShort (by decide)), Option.map_some,
    partAtDot_append hStem hDot]

end Path

end Linguist
