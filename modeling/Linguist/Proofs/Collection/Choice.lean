import Linguist.Collection
import Linguist.Proofs.Language
import Linguist.Proofs.Phrasebook

/-!
# Linguist — which catalogue stands for a language

A catalogue is asked for by a language. If one is spelled as requested it is
chosen, and else the first one of the same language, whatever its region. So the
spelling matters: where a catalogue of Portugal was read first, `pt_BR` finds the
one of Brazil that is spelled so, and `pt-BR` does not.

* `Collection.IsObscured` — where a catalogue of another identifier is chosen.
* `ofLanguage?_of_spelled`, `ofLanguage?_of_not_spelled` — the two searches.
* `ofLanguage?_exact` — what is chosen if there is a catalogue of the identifier.
* `ofLanguage?_portuguese` — a catalogue of Portugal in place of one of Brazil.
-/

namespace Linguist.Collection

open LanguageId (dashed ofText?_dashed)

/-- Whether the catalogues of an identifier are out of reach for a language that is requested: none
is spelled like the request, and the first one of the same language has another identifier. -/
def IsObscured (collection : Collection) (language : String) (wanted : LanguageId) : Prop :=
  (∀ held ∈ collection.catalogs, held.language ≠ language) ∧
    ∃ before first after, collection.catalogs = before ++ first :: after ∧
      (∀ other ∈ before, ∀ id, other.languageId? = some id → id.language ≠ wanted.language) ∧
      ∃ id, first.languageId? = some id ∧ id.language = wanted.language ∧ id ≠ wanted

variable {collection : Collection} {language : String} {wanted : LanguageId}

/-! ## Two searches -/

/-- A catalogue is of the requested language if its identifier has this language. -/
theorem hasLanguage_iff (hWanted : LanguageId.ofText? language = some wanted) (catalog : Catalog) :
    catalog.hasLanguage language = true ↔
      ∃ id, catalog.languageId? = some id ∧ id.language = wanted.language := by
  rw [Catalog.hasLanguage_eq_true_iff, hWanted]
  simp

/-- A catalogue that is spelled like the request is chosen. -/
theorem ofLanguage?_of_spelled (h : ∃ held ∈ collection.catalogs, held.language = language) :
    ∃ catalog ∈ collection.catalogs, collection.ofLanguage? language = some catalog ∧
      catalog.language = language := by
  obtain ⟨held, hHeld, hSpelled⟩ := h
  cases hFind : collection.catalogs.find? (·.language == language) with
  | none =>
    exact absurd (beq_iff_eq.mpr hSpelled) (List.find?_eq_none.mp hFind held hHeld)
  | some catalog =>
    have hFound := List.find?_some hFind
    refine ⟨catalog, List.mem_of_find?_eq_some hFind, ?_, beq_iff_eq.mp hFound⟩
    rw [ofLanguage?, hFind, Option.some_or]

/-- Else the first one of the language is. -/
theorem ofLanguage?_of_not_spelled (hWanted : LanguageId.ofText? language = some wanted)
    (hSpelled : ∀ held ∈ collection.catalogs, held.language ≠ language) (catalog : Catalog) :
    collection.ofLanguage? language = some catalog ↔
      (∃ id, catalog.languageId? = some id ∧ id.language = wanted.language) ∧
        ∃ before after, collection.catalogs = before ++ catalog :: after ∧
          ∀ other ∈ before, ∀ id, other.languageId? = some id → id.language ≠ wanted.language := by
  have hNone : collection.catalogs.find? (·.language == language) = none := by
    rw [List.find?_eq_none]
    intro held hHeld hSame
    exact hSpelled held hHeld (beq_iff_eq.mp hSame)
  have hOther (other : Catalog) : (!other.hasLanguage language) = true ↔
      ∀ id, other.languageId? = some id → id.language ≠ wanted.language := by
    rw [Bool.not_eq_true', Bool.eq_false_iff, ne_eq, hasLanguage_iff hWanted]
    simp only [not_exists, not_and, ne_eq]
  rw [ofLanguage?, hNone, Option.none_or, List.find?_eq_some_iff_append, hasLanguage_iff hWanted]
  simp only [hOther]

/-- The first of a language is one catalogue, so it is obscured just if this one has another
identifier. -/
theorem isObscured_iff (hWanted : LanguageId.ofText? language = some wanted)
    (hSpelled : ∀ held ∈ collection.catalogs, held.language ≠ language) {catalog : Catalog}
    (hChosen : collection.ofLanguage? language = some catalog) :
    collection.IsObscured language wanted ↔ catalog.languageId? ≠ some wanted := by
  have hFirst := ofLanguage?_of_not_spelled hWanted hSpelled
  obtain ⟨⟨id, hId, hLanguage⟩, before, after, hSplit, hBefore⟩ := (hFirst catalog).mp hChosen
  constructor
  · rintro ⟨-, before', first, after', hSplit', hBefore', id', hId', hLanguage', hOther⟩
    have hSame := (hFirst first).mpr
      ⟨⟨id', hId', hLanguage'⟩, before', after', hSplit', hBefore'⟩
    obtain rfl : catalog = first := Option.some.inj (hChosen.symm.trans hSame)
    rw [hId']
    exact fun hWrong => hOther (Option.some.inj hWrong)
  · intro hOther
    refine ⟨hSpelled, before, catalog, after, hSplit, hBefore, id, hId, hLanguage, ?_⟩
    rintro rfl
    exact hOther hId

/-- A phrasebook for a language is that of the catalogue that is chosen. -/
theorem phrasebook_eq_ok_iff {catalog : Catalog} {book : Phrasebook}
    (h : collection.ofLanguage? language = some catalog) :
    (collection.phrasebook language).result = .ok book ↔
      Phrasebook.ofCatalog catalog = .ok book := by
  rw [phrasebook, h]
  dsimp only
  cases Phrasebook.ofCatalog catalog with
  | error key => simp [Logged.fail]
  | ok built =>
    show (Except.ok built : Except Error Phrasebook) = .ok book ↔ _
    rw [Except.ok.injEq, Except.ok.injEq]

/-! ## The choice -/

/-- **The catalogue for a language.** If a catalogue of the requested identifier is held, one of its
language is chosen, and the phrasebook is made of this one. It has the identifier itself unless the
catalogues of the identifier are obscured. -/
theorem ofLanguage?_exact (hWanted : LanguageId.ofText? (dashed language) = some wanted)
    (hHeld : ∃ held ∈ collection.catalogs, held.languageId? = some wanted) :
    ∃ catalog ∈ collection.catalogs, collection.ofLanguage? language = some catalog ∧
      (∃ id, catalog.languageId? = some id ∧ id.language = wanted.language) ∧
      (catalog.languageId? = some wanted ↔ ¬ collection.IsObscured language wanted) ∧
      ∀ book, (collection.phrasebook language).result = .ok book ↔
        Phrasebook.ofCatalog catalog = .ok book := by
  rw [ofText?_dashed] at hWanted
  by_cases hSpelled : ∃ held ∈ collection.catalogs, held.language = language
  · -- what is spelled like the request has its identifier
    obtain ⟨catalog, hCatalog, hChosen, rfl⟩ := ofLanguage?_of_spelled hSpelled
    have hId : catalog.languageId? = some wanted := hWanted
    have hClear : ¬ collection.IsObscured catalog.language wanted :=
      fun hObscured => hObscured.1 catalog hCatalog rfl
    exact ⟨catalog, hCatalog, hChosen, ⟨wanted, hId, rfl⟩, iff_of_true hId hClear,
      fun _ => phrasebook_eq_ok_iff hChosen⟩
  · simp only [not_exists, not_and] at hSpelled
    -- one of the language is held, so there is a first one
    obtain ⟨held, hHeld, hId⟩ := hHeld
    have hSome : (collection.catalogs.find? (·.hasLanguage language)).isSome = true :=
      List.find?_isSome.mpr ⟨held, hHeld, (hasLanguage_iff hWanted held).mpr ⟨wanted, hId, rfl⟩⟩
    have hChoice : (collection.ofLanguage? language).isSome = true := by
      rw [ofLanguage?, Option.isSome_or, hSome, Bool.or_true]
    obtain ⟨catalog, hChosen⟩ := Option.isSome_iff_exists.mp hChoice
    obtain ⟨hLanguage, before, after, hSplit, -⟩ :=
      (ofLanguage?_of_not_spelled hWanted hSpelled catalog).mp hChosen
    have hCatalog : catalog ∈ collection.catalogs := by
      rw [hSplit]
      exact List.mem_append_right _ List.mem_cons_self
    refine ⟨catalog, hCatalog, hChosen, hLanguage, ?_, fun _ => phrasebook_eq_ok_iff hChosen⟩
    rw [isObscured_iff hWanted hSpelled hChosen, ne_eq, Classical.not_not]

/-- A request in small letters for one of two catalogues, neither of which is in the way. -/
theorem ofLanguage?_exact_brazil :
    let german : Catalog := { language := "de" }
    let brazil : Catalog := { language := "pt_BR" }
    let collection : Collection := ⟨[german, brazil]⟩
    let wanted : LanguageId := { language := some "pt", region := some "BR" }
    LanguageId.ofText? (dashed "pt_br") = some wanted ∧ brazil.languageId? = some wanted ∧
      collection.ofLanguage? "pt_br" = some brazil ∧
      ¬ collection.IsObscured "pt_br" wanted := by
  intro german brazil collection wanted
  have hWanted : LanguageId.ofText? (dashed "pt_br") = some wanted := by decide +kernel
  have hHeld : brazil.languageId? = some wanted := by decide +kernel
  have hBrazil : collection.ofLanguage? "pt_br" = some brazil := by decide +kernel
  obtain ⟨catalog, -, hChosen, -, hClear, -⟩ :=
    ofLanguage?_exact hWanted ⟨brazil, List.mem_cons_of_mem _ List.mem_cons_self, hHeld⟩
  obtain rfl : brazil = catalog := Option.some.inj (hBrazil.symm.trans hChosen)
  exact ⟨hWanted, hHeld, hBrazil, hClear.mp hHeld⟩

/-- Portuguese of Brazil is requested and held, and the catalogue of Portugal is chosen, under whose
rule zero takes another form. -/
theorem ofLanguage?_portuguese :
    let portugal : Catalog := { language := "pt_PT" }
    let brazil : Catalog := { language := "pt_BR" }
    let collection : Collection := ⟨[portugal, brazil]⟩
    collection.ofLanguage? "pt-BR" = some portugal ∧
      portugal.pluralRule.formIndex 0 ≠ brazil.pluralRule.formIndex 0 ∧
      ¬ ∀ wanted, LanguageId.ofText? (dashed "pt-BR") = some wanted →
        (∃ held ∈ collection.catalogs, held.languageId? = some wanted) →
        ∃ catalog, collection.ofLanguage? "pt-BR" = some catalog ∧
          catalog.languageId? = some wanted := by
  intro portugal brazil collection
  have hPortugal : collection.ofLanguage? "pt-BR" = some portugal := by decide +kernel
  refine ⟨hPortugal, by decide +kernel, fun h => ?_⟩
  have hBrazil : brazil.languageId? = some { language := some "pt", region := some "BR" } := by
    decide +kernel
  obtain ⟨catalog, hChosen, hId⟩ :=
    h _ (by decide +kernel) ⟨brazil, List.mem_cons_of_mem _ List.mem_cons_self, hBrazil⟩
  obtain rfl : portugal = catalog := Option.some.inj (hPortugal.symm.trans hChosen)
  exact absurd hId (by decide +kernel)

end Linguist.Collection
