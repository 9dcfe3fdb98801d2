import Linguist.Catalog.Basic
import Mathlib.Data.List.Nodup

/-!
# Linguist — catalogues in which no key occurs again

The keys that occur again are collected on one walk over the file, with the keys
before in hand. Nothing is collected just if all keys differ, and then a key
tells its message: two messages with one key are the same message.

* `Catalog.mem_messages_iff` — the messages of a catalogue are those of its contexts.
* `Catalog.duplicateKeys_eq_nil_iff` — no key occurs again if all keys differ.
* `Catalog.eq_of_key_eq` — a key that does not occur again tells its message.
-/

namespace Linguist

/-- Nothing occurs again just if the members differ from each other and from those before. -/
theorem repeats_eq_nil_iff {α : Type} [DecidableEq α] {xs seen : List α} :
    repeats seen xs = [] ↔ xs.Nodup ∧ ∀ x ∈ xs, x ∉ seen := by
  induction xs generalizing seen with
  | nil => simp [repeats]
  | cons x xs ih =>
    rw [repeats, List.nodup_cons, List.forall_mem_cons]
    by_cases hSeen : x ∈ seen
    · simp [hSeen]
    · -- the walk goes on with this member among those before, and no later one is equal to it
      rw [if_neg hSeen, ih]
      constructor
      · rintro ⟨hNodup, hNew⟩
        have hFirst : x ∉ xs := fun hMem => hNew x hMem List.mem_cons_self
        exact ⟨⟨hFirst, hNodup⟩, hSeen, fun y hy hOld => hNew y hy (List.mem_cons_of_mem x hOld)⟩
      · rintro ⟨⟨hFirst, hNodup⟩, -, hNew⟩
        refine ⟨hNodup, fun y hy hOld => ?_⟩
        rcases List.mem_cons.mp hOld with rfl | hOld
        · exact hFirst hy
        · exact hNew y hy hOld

namespace Catalog

/-- The messages of a catalogue are those of its contexts, each with the name of its own. -/
theorem mem_messages_iff {catalog : Catalog} {name : String} {message : Message} :
    (name, message) ∈ catalog.messages ↔
      ∃ context ∈ catalog.contexts, context.name = name ∧ message ∈ context.messages := by
  simp only [messages, List.mem_flatMap, List.mem_map, Prod.mk.injEq]
  constructor
  · rintro ⟨context, hContext, _, hMessage, hName, rfl⟩
    exact ⟨context, hContext, hName, hMessage⟩
  · rintro ⟨context, hContext, hName, hMessage⟩
    exact ⟨context, hContext, message, hMessage, hName, rfl⟩

/-- No key occurs again just if all keys differ. -/
theorem duplicateKeys_eq_nil_iff {catalog : Catalog} :
    catalog.duplicateKeys = [] ↔ catalog.keys.Nodup := by
  rw [duplicateKeys, repeats_eq_nil_iff]
  simp

/-- Where all keys differ, a key tells its message. -/
theorem eq_of_key_eq {catalog : Catalog} (hKeys : catalog.keys.Nodup)
    {a b : String × Message} (ha : a ∈ catalog.messages) (hb : b ∈ catalog.messages)
    (h : a.2.key a.1 = b.2.key b.1) : a = b :=
  List.inj_on_of_nodup_map hKeys ha hb h

end Catalog

end Linguist
