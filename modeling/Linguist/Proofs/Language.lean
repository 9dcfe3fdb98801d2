import Linguist.Language

/-!
# Linguist — what an identifier says of its text

The separators between subtags are alike, and the language is told by the first
subtag alone: what follows it may keep the text from being an identifier, but it
changes nothing about the language.

* `LanguageId.ofText?_dashed` — `_` is read as `-`.
* `LanguageId.ofText?_language` — the language of an identifier.
* `LanguageId.ofText?_ofList` — a language by itself is an identifier.
* `Catalog.hasLanguage_eq_true_iff` — catalogues of a language.
-/

namespace Linguist

namespace LanguageId

/-! ## Separators -/

/-- Whether a character parts subtags. -/
def isSeparator (c : Char) : Bool :=
  c == '-' || c == '_'

theorem subtags_eq (s : String) : subtags s = s.toList.splitOnP isSeparator :=
  rfl

/-- A text with `_` read as `-`. -/
def dashed (s : String) : String :=
  String.ofList (s.toList.map fun c => if c = '_' then '-' else c)

/-- The subtags are the same, for they hold no separator themselves. -/
theorem subtags_dashed (s : String) : subtags (dashed s) = subtags s := by
  rw [subtags_eq, subtags_eq, dashed, String.toList_ofList]
  induction s.toList with
  | nil => rfl
  | cons c cs ih =>
    rw [List.map_cons, List.splitOnP_cons_eq_if_modifyHead, List.splitOnP_cons_eq_if_modifyHead, ih]
    by_cases hDash : c = '_'
    · simp [hDash, isSeparator]
    · rw [if_neg hDash]

theorem ofText?_dashed (s : String) : ofText? (dashed s) = ofText? s := by
  rw [ofText?, ofText?, subtags_dashed]

/-! ## The language -/

/-- The language that a subtag stands for. -/
def languageOf? (tag : List Char) : Option String :=
  if small tag = "und" then none else some (small tag)

section Reading

variable {id result : LanguageId} {tags : List (List Char)}

theorem language_of_withVariants? (h : id.withVariants? tags = some result) :
    result.language = id.language := by
  unfold withVariants? at h
  split at h
  · obtain rfl := Option.some.inj h
    rfl
  · cases h

theorem language_of_withRegion? (h : id.withRegion? tags = some result) :
    result.language = id.language := by
  unfold withRegion? at h
  split at h
  · obtain rfl := Option.some.inj h
    rfl
  · split at h
    · exact (language_of_withVariants? h :)
    · exact language_of_withVariants? h

theorem language_of_withScript? (h : id.withScript? tags = some result) :
    result.language = id.language := by
  unfold withScript? at h
  split at h
  · obtain rfl := Option.some.inj h
    rfl
  · split at h
    · exact (language_of_withRegion? h :)
    · exact language_of_withRegion? h

/-- The first subtag of an identifier is a language, and the language of the identifier is this
one. -/
theorem ofText?_language {s : String} (h : ofText? s = some id) :
    ∃ tag rest, subtags s = tag :: rest ∧ isLanguage tag = true ∧
      id.language = languageOf? tag := by
  unfold ofText? at h
  split at h
  · cases h
  · rename_i tag rest hTags
    split at h
    · rename_i hLanguage
      exact ⟨tag, rest, hTags, hLanguage, language_of_withScript? h⟩
    · cases h

/-- A language holds letters only, and no separator is a letter. -/
theorem isSeparator_eq_false {tag : List Char} (h : isLanguage tag = true) :
    ∀ c ∈ tag, isSeparator c = false := by
  intro c hc
  have hLetters : tag.all isLetter = true := by
    rw [isLanguage, Bool.and_eq_true] at h
    exact h.2
  have hLetter : isLetter c = true := List.all_eq_true.mp hLetters c hc
  rw [isSeparator, Bool.or_eq_false_iff, beq_eq_false_iff_ne, beq_eq_false_iff_ne]
  constructor
  · rintro rfl
    exact absurd hLetter (by decide)
  · rintro rfl
    exact absurd hLetter (by decide)

/-- A language by itself is an identifier. -/
theorem ofText?_ofList {tag : List Char} (h : isLanguage tag = true) :
    ofText? (String.ofList tag) = some { language := languageOf? tag } := by
  have hTags : subtags (String.ofList tag) = [tag] := by
    rw [subtags_eq, String.toList_ofList, List.splitOnP_eq_singleton (isSeparator_eq_false h)]
  rw [ofText?, hTags]
  exact if_pos h

end Reading

end LanguageId

/-- A catalogue has a language if both are identifiers with the same one. -/
theorem Catalog.hasLanguage_eq_true_iff {catalog : Catalog} {language : String} :
    catalog.hasLanguage language = true ↔ ∃ own wanted, catalog.languageId? = some own ∧
      LanguageId.ofText? language = some wanted ∧ own.language = wanted.language := by
  unfold hasLanguage
  cases catalog.languageId? with
  | none => simp
  | some own =>
    cases LanguageId.ofText? language with
    | none => simp
    | some wanted => simp

end Linguist
