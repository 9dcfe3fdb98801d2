import Linguist.Proofs.Ts.Stream
import Linguist.Proofs.Xml.Continuation

/-!
# Linguist — a document that is cut off is not read as another one

The root element is the last thing that is read, and it is read only together
with its end tag. That tag stands behind the end tags of all the elements inside,
so a catalogue is never read from a part of them: what is in front of a document's
cut either holds the whole root element or is refused. What follows the root
element makes no difference, be it markup or not.

* `stopped?_of_readContexts` — the content of a root that is read has an end.
* `readForest_continues` — a forest that goes on is read the same.
* `read_append` — more bytes behind a document, and its beginnings.
-/

namespace Linguist.Ts

open Xml
open Xml.Forest (Continues)

/-- Contexts are read only if their level has its end tag. -/
theorem stopped?_of_readContexts {body : Forest} {contexts : List Context}
    (h : (readContexts body).value? = some contexts) : body.stopped? = none := by
  induction body generalizing contexts with
  | closed => rfl
  | stop ending => cases h
  | text _ _ ih | cdata _ _ ih => exact ih h
  | empty tag position rest ih =>
    rw [readContexts] at h
    split at h
    · cases h
    · exact ih h
  | element tag position body rest _ ih =>
    -- whatever the element is, the contexts behind it are read too
    rw [readContexts] at h
    split at h
    · simp only [Logged.value?_bind, Option.bind_eq_some_iff] at h
      obtain ⟨_, -, _, hRest, -⟩ := h
      exact ih hRest
    · simp only [Logged.value?_bind, Option.bind_eq_some_iff] at h
      obtain ⟨_, -, hRest⟩ := h
      exact ih hRest

/-- What is read as a catalogue is read the same if it goes on, with the same notices. -/
theorem readForest_continues {a b : Forest} {catalog : Catalog} (h : Continues a b)
    (hRead : (readForest a).value? = some catalog) : readForest b = readForest a := by
  induction h with
  | stop ending => cases ending <;> cases hRead
  | lastText raw ending => cases ending <;> cases hRead
  | closed => rfl
  | text _ _ ih | cdata _ _ ih => exact ih hRead
  | empty tag position _ _ =>
    rw [readForest, readForest]
  | element tag position body _ _ =>
    rw [readForest, readForest]
  | @unclosed body body' tag position ending b hBody _ =>
    rw [readForest] at hRead
    split at hRead
    · -- the contexts in the body are read, so the body is complete and cannot go on
      rename_i hLabel
      simp only [Logged.value?_bind, Option.bind_eq_some_iff] at hRead
      obtain ⟨_, -, _, hContexts, -⟩ := hRead
      obtain rfl : body = body' := hBody.eq_of_complete (stopped?_of_readContexts hContexts)
      rw [readForest, readForest]
    · cases hRead

/-- A document that is read holds a tag. -/
theorem bracket_mem_of_read {document : Bytes} {catalog : Catalog}
    (h : (read document).result = .ok catalog) : 0x3C ∈ document := by
  refine Decidable.byContradiction fun hBracket => ?_
  rw [read_eq_readForest] at h
  obtain ⟨position, hStop | ⟨raw, hText⟩⟩ := Forest.ofBytes_of_no_bracket hBracket
  · rw [hStop] at h
    cases h
  · rw [hText] at h
    cases h

/-- More bytes behind a document that is read make no difference. -/
theorem read_append_of_read {document : Bytes} {catalog : Catalog}
    (h : (read document).result = .ok catalog) (more : Bytes) :
    read (document ++ more) = read document := by
  have hContinues := Forest.continues_ofBytes (bracket_mem_of_read h) more
  rw [read_eq_readForest] at h ⊢
  rw [read_eq_readForest]
  exact readForest_continues hContinues (toOption_eq_some_iff.mpr h)

/-- **Truncation.** Whatever follows a document that is read, it is read the same, with the same
notices. So no beginning of it is read differently: it is refused, or it comes to the whole. -/
theorem read_append {document : Bytes} {catalog : Catalog}
    (h : (read document).result = .ok catalog) :
    (∀ more, read (document ++ more) = read document) ∧
      ∀ beginning, beginning <+: document →
        (∃ fault, (read beginning).result = .error fault) ∨ read beginning = read document := by
  refine ⟨read_append_of_read h, ?_⟩
  rintro beginning ⟨more, rfl⟩
  cases hBeginning : (read beginning).result with
  | error fault => exact .inl ⟨fault, rfl⟩
  | ok catalog => exact .inr (read_append_of_read hBeginning more).symm

/-- A document with an element that is skipped, in front of bytes that are no markup, and cut off
inside the end tag of a context. -/
theorem read_append_skipped :
    let before := Utf8.encode "<TS><x/><y></y><context><name>a</name></con"
    let document := before ++ Utf8.encode "text></TS>"
    let catalog : Catalog := { contexts := [{ name := "a" }] }
    (read document).result = .ok catalog ∧
      (read (document ++ Utf8.encode "</TS><!x")).result = .ok catalog ∧
      ∃ fault, (read before).result = .error fault := by
  intro before document catalog
  have hRead : (read document).result = .ok catalog := toOption_eq_some_iff.mp (by decide +kernel)
  obtain ⟨hMore, hBeginning⟩ := read_append hRead
  refine ⟨hRead, by rw [hMore, hRead], ?_⟩
  rcases hBeginning before (List.prefix_append _ _) with hRefused | hWhole
  · exact hRefused
  · have hCut : (read before).result.toOption = none := by decide +kernel
    rw [hWhole, hRead] at hCut
    cases hCut

end Linguist.Ts
