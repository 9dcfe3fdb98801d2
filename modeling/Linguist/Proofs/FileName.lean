import Linguist.Command.Check
import Linguist.Proofs.Files.Path
import Linguist.Proofs.Language
import Mathlib.Data.List.TakeWhile

/-!
# Linguist — the language in the name of a file

The stem of a file's name is parted at `_`; a language is what follows from the
first segment on that starts one, where the first segment of several is the
domain. Segments are joined with `-` to see whether they name a language and with
`_` to name it, which are one identifier.

* `StartsLanguage` — segments that name a language.
* `languageSuffix?_eq_none_iff`, `languageSuffix?_of_first` — the first place where one starts.
* `languageOfPath?_exact` — which language a name tells, and what it is good for.
-/

namespace Linguist

open LanguageId (dashed ofText?_dashed)

/-- Whether segments name a language: the first one is two or three small letters, and with `-` in
between all of them are an identifier. -/
def StartsLanguage (segments : List (List Char)) : Prop :=
  ∃ first rest, segments = first :: rest ∧ (first.length = 2 ∨ first.length = 3) ∧
    (∀ c ∈ first, 'a' ≤ c ∧ c ≤ 'z') ∧
    (LanguageId.ofText? (joinSegments '-' segments)).isSome = true

variable {segments : List (List Char)} {language path stem : String}

/-! ## Where a language starts -/

theorem isLower_iff {c : Char} : c.isLower = true ↔ 'a' ≤ c ∧ c ≤ 'z' := by
  show (decide ('a' ≤ c) && decide (c ≤ 'z')) = true ↔ _
  rw [Bool.and_eq_true, decide_eq_true_iff, decide_eq_true_iff]

theorem namesLanguage_iff : namesLanguage segments = true ↔ StartsLanguage segments := by
  unfold namesLanguage StartsLanguage
  cases segments with
  | nil => simp
  | cons first rest => simp [isLanguageSegment, isLower_iff, and_assoc]

instance : DecidablePred StartsLanguage := fun _ => decidable_of_iff _ namesLanguage_iff

theorem languageSuffix?_of_startsLanguage (h : StartsLanguage segments) :
    languageSuffix? segments = some (joinSegments '_' segments) := by
  obtain ⟨first, rest, rfl, -⟩ := id h
  rw [languageSuffix?, if_pos (namesLanguage_iff.mpr h)]

theorem languageSuffix?_of_not_startsLanguage {first : List Char} {rest : List (List Char)}
    (h : ¬ StartsLanguage (first :: rest)) :
    languageSuffix? (first :: rest) = languageSuffix? rest := by
  rw [languageSuffix?, if_neg (fun hNames => h (namesLanguage_iff.mp hNames))]

/-- No language is found just if none starts anywhere. -/
theorem languageSuffix?_eq_none_iff :
    languageSuffix? segments = none ↔ ∀ i, ¬ StartsLanguage (segments.drop i) := by
  induction segments with
  | nil => simp [languageSuffix?, StartsLanguage]
  | cons first rest ih =>
    by_cases hHere : StartsLanguage (first :: rest)
    · rw [languageSuffix?_of_startsLanguage hHere]
      exact iff_of_false (by simp) fun hNone => hNone 0 hHere
    · rw [languageSuffix?_of_not_startsLanguage hHere, ih]
      constructor
      · intro hRest i
        cases i with
        | zero => exact hHere
        | succ i => exact hRest i
      · exact fun hAll i => hAll (i + 1)

/-- What is found goes from the first place on where a language starts. -/
theorem languageSuffix?_of_first {i : Nat} (hStarts : StartsLanguage (segments.drop i))
    (hFirst : ∀ j < i, ¬ StartsLanguage (segments.drop j)) :
    languageSuffix? segments = some (joinSegments '_' (segments.drop i)) := by
  induction segments generalizing i with
  | nil => simp [StartsLanguage] at hStarts
  | cons first rest ih =>
    cases i with
    | zero => exact languageSuffix?_of_startsLanguage hStarts
    | succ i =>
      rw [languageSuffix?_of_not_startsLanguage (hFirst 0 (Nat.zero_lt_succ i))]
      exact ih hStarts fun j hj => hFirst (j + 1) (Nat.succ_lt_succ hj)

theorem exists_of_languageSuffix? (h : languageSuffix? segments = some language) :
    ∃ i, StartsLanguage (segments.drop i) ∧ language = joinSegments '_' (segments.drop i) := by
  induction segments with
  | nil => cases h
  | cons first rest ih =>
    by_cases hHere : StartsLanguage (first :: rest)
    · rw [languageSuffix?_of_startsLanguage hHere] at h
      exact ⟨0, hHere, (Option.some.inj h).symm⟩
    · rw [languageSuffix?_of_not_startsLanguage hHere] at h
      obtain ⟨i, hStarts, hLanguage⟩ := ih h
      exact ⟨i + 1, hStarts, hLanguage⟩

/-! ## Segments in a row -/

theorem toList_joinSegments (between : Char) (segments : List (List Char)) :
    (joinSegments between segments).toList = [between].intercalate segments :=
  String.toList_ofList

/-- Segments in a row are the first one, and then nothing or a separator. -/
theorem toList_joinSegments_cons (between : Char) (first : List Char) (rest : List (List Char)) :
    (joinSegments between (first :: rest)).toList = first ∨
      ∃ others, (joinSegments between (first :: rest)).toList = first ++ between :: others := by
  rw [toList_joinSegments]
  cases rest with
  | nil => exact .inl List.intercalate_singleton
  | cons next rest =>
    rw [List.intercalate_cons_cons, List.append_assoc]
    exact .inr ⟨_, rfl⟩

/-- With `_` read as `-`, segments are joined with `-`. -/
theorem dashed_joinSegments (h : ∀ segment ∈ segments, '_' ∉ segment) :
    dashed (joinSegments '_' segments) = joinSegments '-' segments := by
  have hPlain {segment : List Char} (hSegment : '_' ∉ segment) :
      segment.map (fun c => if c = '_' then '-' else c) = segment := by
    rw [List.map_congr_left (g := id), List.map_id]
    intro c hc
    refine if_neg ?_
    rintro rfl
    exact hSegment hc
  rw [dashed, toList_joinSegments, joinSegments]
  congr 1
  induction segments with
  | nil => rfl
  | cons first rest ih =>
    have hFirst := hPlain (h first List.mem_cons_self)
    cases rest with
    | nil => rw [List.intercalate_singleton, List.intercalate_singleton, hFirst]
    | cons next rest =>
      rw [List.intercalate_cons_cons, List.intercalate_cons_cons, List.map_append, List.map_append,
        ih fun segment hSegment => h segment (List.mem_cons_of_mem _ hSegment), hFirst]
      rfl

theorem joinSegments_drop_suffix (segments : List (List Char)) (i : Nat) :
    (joinSegments '_' (segments.drop i)).toList <:+ (joinSegments '_' segments).toList := by
  rw [toList_joinSegments, toList_joinSegments]
  induction segments generalizing i with
  | nil => simp
  | cons first rest ih =>
    cases i with
    | zero => exact List.suffix_rfl
    | succ i =>
      refine (ih i).trans ?_
      cases rest with
      | nil => exact List.nil_suffix
      | cons next rest =>
        rw [List.intercalate_cons_cons]
        exact List.suffix_append _ _

theorem joinSegments_splitOn (stem : String) :
    joinSegments '_' (stem.toList.splitOn '_') = stem := by
  rw [joinSegments, List.intercalate_splitOn, String.ofList_toList]

/-! ## A language that was found -/

section Found

variable (hStarts : StartsLanguage segments) (hPlain : ∀ segment ∈ segments, '_' ∉ segment)

include hStarts hPlain

/-- Joined with `_`, segments that name a language are an identifier. -/
theorem exists_ofText?_joinSegments :
    ∃ id, LanguageId.ofText? (joinSegments '_' segments) = some id := by
  obtain ⟨first, rest, -, -, -, hText⟩ := hStarts
  rw [← dashed_joinSegments hPlain, ofText?_dashed] at hText
  exact Option.isSome_iff_exists.mp hText

/-- The command takes it for a language. -/
theorem checkLanguage_joinSegments :
    Command.checkLanguage (joinSegments '_' segments) = .ok () := by
  obtain ⟨id, hId⟩ := exists_ofText?_joinSegments hStarts hPlain
  have hSome : (joinSegments '_' segments).isEmpty = false := by
    rw [Bool.eq_false_iff, ne_eq, String.isEmpty_iff]
    intro hEmpty
    have hNone : LanguageId.ofText? "" = none := by decide
    rw [hEmpty, hNone] at hId
    cases hId
  rw [Command.checkLanguage, hSome, hId]
  rfl

/-- A catalogue that is labelled with it has the language of its first segment. -/
theorem hasLanguage_joinSegments (catalog : Catalog) :
    let labelled := { catalog with language := joinSegments '_' segments }
    (∃ id, labelled.languageId? = some id) ∧ labelled.hasLanguage
      (String.ofList ((joinSegments '_' segments).toList.takeWhile (· != '_'))) = true := by
  intro labelled
  obtain ⟨id, hId⟩ := exists_ofText?_joinSegments hStarts hPlain
  refine ⟨⟨id, hId⟩, ?_⟩
  obtain ⟨first, rest, rfl, -, hSmall, -⟩ := hStarts
  have hUnparted : ∀ c ∈ first, LanguageId.isSeparator c = false := by
    intro c hc
    rw [LanguageId.isSeparator, Bool.or_eq_false_iff, beq_eq_false_iff_ne, beq_eq_false_iff_ne]
    constructor
    · rintro rfl
      exact absurd (hSmall _ hc).1 (by decide)
    · rintro rfl
      exact hPlain first List.mem_cons_self hc
  have hOther : '_' ∉ first := hPlain first List.mem_cons_self
  -- the first segment is what stands in front of `_`, and it is the first subtag
  obtain ⟨hTake, others, hTags⟩ : (joinSegments '_' (first :: rest)).toList.takeWhile (· != '_')
      = first ∧ ∃ others, LanguageId.subtags (joinSegments '_' (first :: rest))
        = first :: others := by
    rw [LanguageId.subtags_eq]
    rcases toList_joinSegments_cons '_' first rest with hChars | ⟨others, hChars⟩
    · rw [hChars]
      exact ⟨List.takeWhile_eq_self_iff.mpr (bne_of_not_mem hOther), [],
        List.splitOnP_eq_singleton hUnparted⟩
    · rw [hChars]
      exact ⟨takeWhile_separator hOther, _, List.splitOnP_append_cons_of_forall_mem hUnparted _ (by decide) _⟩
  obtain ⟨tag, others', hTags', hLanguage, hSame⟩ := LanguageId.ofText?_language hId
  obtain ⟨rfl, -⟩ := List.cons.inj (hTags.symm.trans hTags')
  rw [hTake]
  exact Catalog.hasLanguage_eq_true_iff.mpr
    ⟨id, _, hId, LanguageId.ofText?_ofList hLanguage, hSame⟩

end Found

/-! ## The language of a path -/

/-- The place of the first segment that may start a language: of several segments the first one is
the domain. -/
def firstPlace (segments : List (List Char)) : Nat :=
  if segments.length = 1 then 0 else 1

theorem languageOfPath?_eq (h : Path.stem? path = some stem) :
    languageOfPath? path = languageSuffix?
      ((stem.toList.splitOn '_').drop (firstPlace (stem.toList.splitOn '_'))) := by
  rw [languageOfPath?, h]
  dsimp only
  rw [← List.splitOn_eq_splitOnP]
  obtain ⟨first, rest, hSegments⟩ :=
    List.exists_cons_of_ne_nil (List.splitOn_ne_nil '_' stem.toList)
  rw [hSegments]
  cases rest with
  | nil => rfl
  | cons next rest => rfl

/-- **The language in a name.** The stem of a file's name is parted at `_`. The language goes from
the first segment on that starts one, not counting the first of several, up to the end; if no
segment does, there is none. It ends the stem, the command takes it for a language, and a catalogue
that is labelled with it has an identifier and the language of its first segment. Neither the
directory nor the extension makes a difference. -/
theorem languageOfPath?_exact (h : Path.stem? path = some stem) :
    let segments := stem.toList.splitOn '_'
    let first := firstPlace segments
    (languageOfPath? path = none ↔ ∀ i, first ≤ i → ¬ StartsLanguage (segments.drop i)) ∧
      (∀ i, first ≤ i → StartsLanguage (segments.drop i) →
        (∀ j, first ≤ j → j < i → ¬ StartsLanguage (segments.drop j)) →
        languageOfPath? path = some (joinSegments '_' (segments.drop i))) ∧
      (∀ language, languageOfPath? path = some language →
        language.toList <:+ stem.toList ∧ Command.checkLanguage language = .ok () ∧
          ∀ catalog : Catalog, let labelled := { catalog with language }
            (∃ id, labelled.languageId? = some id) ∧
              labelled.hasLanguage (String.ofList (language.toList.takeWhile (· != '_'))) = true) ∧
      ∀ directory extension : String,
        extension ≠ "" → '/' ∉ extension.toList → '.' ∉ extension.toList →
        languageOfPath? (directory ++ "/" ++ (stem ++ "." ++ extension)) = languageOfPath? path := by
  intro segments first
  have hPath : languageOfPath? path = languageSuffix? (segments.drop first) := languageOfPath?_eq h
  refine ⟨?_, fun i hi hStarts hFirst => ?_, fun language hLanguage => ?_,
    fun directory extension hExtension hOther hDot => ?_⟩
  · rw [hPath, languageSuffix?_eq_none_iff]
    constructor
    · intro hNone i hi
      have hHere := hNone (i - first)
      rwa [List.drop_drop, Nat.add_sub_cancel' hi] at hHere
    · intro hNone i
      rw [List.drop_drop]
      exact hNone (first + i) (Nat.le_add_right _ _)
  · have hDrop : segments.drop i = (segments.drop first).drop (i - first) := by
      rw [List.drop_drop, Nat.add_sub_cancel' hi]
    rw [hPath, hDrop]
    refine languageSuffix?_of_first (hDrop ▸ hStarts) fun j hj => ?_
    rw [List.drop_drop]
    exact hFirst (first + j) (Nat.le_add_right _ _) (by omega)
  · rw [hPath] at hLanguage
    obtain ⟨i, hStarts, rfl⟩ := exists_of_languageSuffix? hLanguage
    rw [List.drop_drop] at hStarts ⊢
    have hPlain : ∀ segment ∈ segments.drop (first + i), '_' ∉ segment := fun segment hSegment =>
      not_mem_of_mem_splitOn (List.mem_of_mem_drop hSegment)
    have hSuffix := joinSegments_drop_suffix segments (first + i)
    rw [joinSegments_splitOn] at hSuffix
    exact ⟨hSuffix, checkLanguage_joinSegments hStarts hPlain,
      hasLanguage_joinSegments hStarts hPlain⟩
  · obtain ⟨hSlash, hSome⟩ := Path.stem_of_path h
    rw [languageOfPath?_eq (Path.stem?_slash hSlash hSome hExtension hOther hDot),
      languageOfPath?_eq h]

/-- The second segment looks like a language, but with what follows it there is none. -/
theorem languageOfPath?_exact_chinese :
    let path := "lib/app_my_zh_Hant_TW.ts"
    let labelled : Catalog := { language := "zh_Hant_TW" }
    Path.stem? path = some "app_my_zh_Hant_TW" ∧ languageOfPath? path = some "zh_Hant_TW" ∧
      Command.checkLanguage "zh_Hant_TW" = .ok () ∧ labelled.hasLanguage "zh" = true ∧
      languageOfPath? "/app_my_zh_Hant_TW.json" = some "zh_Hant_TW" := by
  intro path labelled
  have hStem : Path.stem? path = some "app_my_zh_Hant_TW" := by decide +kernel
  obtain ⟨-, hFound, hGood, hElsewhere⟩ := languageOfPath?_exact hStem
  have hLanguage : languageOfPath? path = some "zh_Hant_TW" := by
    refine (hFound 2 (by decide +kernel) (by decide +kernel) fun j hFirst hj => ?_).trans
      (by decide +kernel)
    have hOne : 1 ≤ j := hFirst
    obtain rfl : j = 1 := by omega
    decide +kernel
  obtain ⟨-, hCheck, hLabelled⟩ := hGood _ hLanguage
  refine ⟨hStem, hLanguage, hCheck, (hLabelled {}).2, ?_⟩
  exact (hElsewhere "" "json" (by decide) (by decide) (by decide)).trans hLanguage

end Linguist
