import Linguist.Collection
import Linguist.Proofs.Catalog.Json
import Linguist.Proofs.Files

/-!
# Linguist — collections come back from their cache

A cache file holds the catalogues of a collection as a JSON list, and nothing is
settled when it is loaded: no language is filled in and no key is looked at. So
the collection is the same again, whatever stood at the path before.

* `Collection.load_of_save` — loading behind saving.
* `Collection.json_keeps` — documents of one catalogue, of a list and in a cache.
-/

namespace Linguist.Collection

theorem read_of_save {collection : Collection} {path : String} {before after : FileTree}
    (h : (collection.save path).Achieves before () after) :
    after.read path = .ok (Utf8.encode (Catalog.listToJson collection.catalogs)) := by
  -- the directory comes first, if the path names one
  obtain ⟨middle, hWrite⟩ : ∃ middle, (do
      (Action.create path (Utf8.encode (Catalog.listToJson collection.catalogs))).mapError .io
      Action.note (collection.saveNotice path) : Action Error Unit).Achieves middle () after := by
    unfold save at h
    dsimp only at h
    split at h
    · exact ⟨before, h⟩
    · obtain ⟨_, middle, -, hWrite⟩ := Action.achieves_bind_iff.mp h
      exact ⟨middle, hWrite⟩
  exact Action.read_of_create_note hWrite

theorem load_of_save {collection : Collection} {path : String} {before after : FileTree}
    (h : (collection.save path).Achieves before () after) : load after path = .ok collection := by
  rw [load, read_of_save h]
  show Except.map _ (Except.mapError _ (Catalog.listOfJson _)) = _
  rw [Catalog.listOfJson_listToJson]
  rfl

/-- **JSON keeps all there is.** A catalogue is read from its document as it was, a list of
catalogues from theirs, and a collection that was saved is loaded as it was. -/
theorem json_keeps (catalog : Catalog) (collection : Collection) :
    Catalog.ofJson (Utf8.encode catalog.toJson) = .ok catalog ∧
      Catalog.listOfJson (Utf8.encode (Catalog.listToJson collection.catalogs))
        = .ok collection.catalogs ∧
      ∀ (path : String) (before after : FileTree),
        (collection.save path).Achieves before () after → load after path = .ok collection :=
  ⟨catalog.ofJson_toJson, Catalog.listOfJson_listToJson collection.catalogs,
    fun _ _ _ => load_of_save⟩

/-- A catalogue without a language, in a cache that has the name of one, with an empty comment that
is not a missing one. -/
theorem json_keeps_empty_comment :
    let message := { Message.pending "\"\\\x1f\n" with comment := some "", numerus := true }
    let catalog : Catalog := { contexts := [{ name := "", messages := [message] }, { name := "" }] }
    let collection : Collection := ⟨[catalog, {}]⟩
    let after := (collection.save "cache/de.json" {}).1
    (collection.save "cache/de.json").Achieves {} () after ∧
      load after "cache/de.json" = .ok collection := by
  intro message catalog collection after
  have hSave : (collection.save "cache/de.json").Achieves {} () after := ⟨rfl, by decide +kernel⟩
  obtain ⟨-, -, hLoad⟩ := json_keeps catalog collection
  exact ⟨hSave, hLoad _ _ _ hSave⟩

end Linguist.Collection
