import Linguist.Proofs.Ts.RoundTrip

/-!
# Linguist — what was read is written and read again

However a document is laid out, what is read from it is normal: whether a message
depends on a number is known before its content is read, so every target it can
get, also the one it has when no target is written, has the shape it should. A
normal catalogue comes back from its document, and so the second document is the
first one.

* `yields_readDraft` — the invariant, kept by everything a message can hold.
* `isNormal_of_read` — what is read is normal.
* `reread` — reading, writing and reading again.
-/

namespace Linguist.Ts

open Xml
open Logged (Yields)

/-! ## Targets -/

theorem isNormal_blank (numerus : Bool) : (Target.blank numerus).IsNormal numerus := by
  cases numerus with
  | false => rfl
  | true => exact Or.inl rfl

/-- Whatever a target holds, it becomes a target of the right shape. -/
theorem Filling.isNormal_target (numerus : Bool) (filling : Filling) :
    (filling.target numerus).IsNormal numerus := by
  obtain ⟨text, forms⟩ := filling
  unfold Filling.target
  -- forms come in any message, but only if there are some
  split
  · rename_i hForms
    exact Or.inr (by simpa using hForms)
  · cases numerus with
    | false => rfl
    | true =>
      rw [if_pos rfl]
      split <;> exact Or.inl rfl

theorem yields_readTarget (numerus : Bool) (tag : Tag) (position : Nat) (body : Forest) :
    (readTarget numerus tag position body).Yields fun target => target.1.IsNormal numerus :=
  .bind (.trivial _) fun _ _ => .bind (.trivial _) fun filling _ =>
    .pure (filling.isNormal_target numerus)

/-! ## Messages -/

/-- Whether the target of a draft, if it has one yet, has the right shape. -/
def Draft.IsNormal (numerus : Bool) (draft : Draft) : Prop :=
  ∀ target ∈ draft.target, target.1.IsNormal numerus

theorem Draft.isNormal_setText {numerus : Bool} {draft : Draft} (h : draft.IsNormal numerus)
    (label text : String) : (draft.setText label text).IsNormal numerus := by
  rw [IsNormal, target_setText]
  exact h

theorem Draft.isNormal_some {numerus : Bool} {draft : Draft} {target : Target × Status}
    (h : target.1.IsNormal numerus) : (draft.setTarget target).IsNormal numerus := by
  intro other hOther
  obtain rfl := Option.some.inj hOther
  exact h

/-- Everything a message can hold leaves its target in the right shape. -/
theorem yields_readDraft (numerus : Bool) (forest : Forest) (draft : Draft)
    (h : draft.IsNormal numerus) :
    (readDraft numerus draft forest).Yields fun after => after.1.IsNormal numerus := by
  -- on the forest; inside an element nothing is known of its own level but what it yields
  induction forest generalizing draft with
  | closed position => exact .pure h
  | stop ending => exact .fail _
  | text raw rest ih | cdata raw rest ih =>
    rw [readDraft]
    exact ih draft h
  | empty tag position rest ih =>
    rw [readDraft]
    split
    · exact .bind (.trivial _) fun location _ => ih _ h
    · -- a self-closed target is blank in the way of the message
      exact .bind (.trivial _) fun status _ => ih _ (Draft.isNormal_some (isNormal_blank numerus))
    · exact ih _ (Draft.isNormal_setText h _ _)
  | element tag position body rest _ ih =>
    rw [readDraft]
    split
    · exact .bind (.trivial _) fun location _ => .bind (.trivial _) fun _ _ => ih _ h
    · exact .bind (yields_readTarget numerus tag position body) fun target hTarget =>
        ih _ (Draft.isNormal_some hTarget)
    · split
      · exact .bind (.trivial _) fun text _ => ih _ (Draft.isNormal_setText h _ text)
      · exact .bind (.trivial _) fun _ _ => ih _ h

/-- A finished draft is a message of the right shape. -/
theorem Draft.isNormal_message {id : Option String} {numerus : Bool} {draft : Draft}
    {position : Nat} {message : Message} (h : draft.IsNormal numerus)
    (hMessage : draft.message id numerus position = .ok message) :
    message.target.IsNormal message.numerus := by
  unfold Draft.message at hMessage
  split at hMessage
  · exact absurd hMessage (by simp)
  · obtain rfl := Except.ok.inj hMessage
    -- without any target the message gets a blank one
    cases hTarget : draft.target with
    | none => exact isNormal_blank numerus
    | some target => exact h target hTarget

theorem yields_readMessage (tag : Tag) (body : Forest) :
    (readMessage tag body).Yields fun message => message.target.IsNormal message.numerus := by
  refine .bind (.trivial _) fun numerus _ => .bind (.trivial _) fun id _ => ?_
  refine .bind (yields_readDraft numerus body {} (by simp [Draft.IsNormal])) fun after hAfter => ?_
  intro message hMessage
  exact Draft.isNormal_message hAfter (toOption_eq_some_iff.mp hMessage)

/-! ## Contexts and the catalogue -/

theorem yields_readContextDraft (forest : Forest) (draft : ContextDraft)
    (h : ∀ message ∈ draft.messages, message.target.IsNormal message.numerus) :
    (readContextDraft draft forest).Yields fun after =>
      ∀ message ∈ after.1.messages, message.target.IsNormal message.numerus := by
  induction forest generalizing draft with
  | closed position => exact .pure h
  | stop ending => exact .fail _
  | text raw rest ih | cdata raw rest ih =>
    rw [readContextDraft]
    exact ih draft h
  | empty tag position rest ih =>
    rw [readContextDraft]
    split
    · exact ih _ h
    · exact ih _ h
    · exact .fail _
    · exact ih _ h
  | element tag position body rest _ ih =>
    rw [readContextDraft]
    split
    · exact .bind (.trivial _) fun name _ => ih _ h
    · exact .bind (.trivial _) fun comment _ => ih _ h
    -- the message that is read now is put in front of those that are normal already
    · refine .bind (yields_readMessage tag body) fun message hMessage => ih _ ?_
      intro other hOther
      rcases List.mem_cons.mp hOther with rfl | hBefore
      · exact hMessage
      · exact h other hBefore
    · exact .bind (.trivial _) fun _ _ => ih _ h

/-- A finished draft is a context of such messages. -/
theorem ContextDraft.isNormal_context {encoding : Option String} {draft : ContextDraft}
    {position : Nat} {context : Context}
    (h : ∀ message ∈ draft.messages, message.target.IsNormal message.numerus)
    (hContext : draft.context encoding position = .ok context) : context.IsNormal := by
  unfold ContextDraft.context at hContext
  split at hContext
  · exact absurd hContext (by simp)
  · obtain rfl := Except.ok.inj hContext
    exact fun message hMessage => h message (List.mem_reverse.mp hMessage)

theorem yields_readContext (tag : Tag) (body : Forest) :
    (readContext tag body).Yields Context.IsNormal := by
  refine .bind (.trivial _) fun encoding _ => ?_
  refine .bind (yields_readContextDraft body {} (by simp)) fun after hAfter => ?_
  intro context hContext
  exact ContextDraft.isNormal_context hAfter (toOption_eq_some_iff.mp hContext)

theorem yields_readContexts (forest : Forest) :
    (readContexts forest).Yields fun contexts => ∀ context ∈ contexts, context.IsNormal := by
  induction forest with
  | closed position => exact .pure (by simp)
  | stop ending => exact .fail _
  | text raw rest ih | cdata raw rest ih =>
    rw [readContexts]
    exact ih
  | empty tag position rest ih =>
    rw [readContexts]
    split
    · exact .fail _
    · exact ih
  | element tag position body rest _ ih =>
    rw [readContexts]
    split
    · refine .bind (yields_readContext tag body) fun context hContext =>
        .bind ih fun contexts hContexts => .pure fun other hOther => ?_
      rcases List.mem_cons.mp hOther with rfl | hBehind
      · exact hContext
      · exact hContexts other hBehind
    · exact .bind (.trivial _) fun _ _ => ih

theorem yields_readHeader (tag : Tag) :
    (liftM (readHeader tag) : Reading Catalog).Yields Catalog.IsNormal := by
  -- a catalogue with a root tag only has no contexts yet
  intro catalog h
  rw [Logged.value?_liftM, toOption_readHeader] at h
  obtain ⟨language, -, h⟩ := Option.bind_eq_some_iff.mp h
  obtain ⟨sourceLanguage, -, h⟩ := Option.bind_eq_some_iff.mp h
  obtain ⟨version, -, rfl⟩ := Option.map_eq_some_iff.mp h
  intro context hContext
  exact absurd hContext List.not_mem_nil

/-- What is read from a forest is normal, whatever forest it is. -/
theorem yields_readForest (forest : Forest) : (readForest forest).Yields Catalog.IsNormal := by
  induction forest with
  | closed position => exact .fail _
  | stop ending => cases ending <;> exact .fail _
  | text raw rest ih | cdata raw rest ih =>
    rw [readForest]
    exact ih
  | empty tag position rest _ =>
    rw [readForest]
    split
    · exact yields_readHeader tag
    · exact .fail _
  | element tag position body rest _ _ =>
    rw [readForest]
    split
    · exact .bind (.trivial _) fun header _ => .bind (yields_readContexts body)
        fun contexts hContexts => .bind (.trivial _) fun _ _ => .pure hContexts
    · exact .fail _

/-- What is read is normal, however the document is laid out. -/
theorem isNormal_of_read {bytes : Bytes} {catalog : Catalog}
    (h : (read bytes).result = .ok catalog) : catalog.IsNormal := by
  rw [read_eq_readForest] at h
  exact yields_readForest (Forest.ofBytes bytes) catalog (toOption_eq_some_iff.mpr h)

/-! ## Reading and writing in turn -/

/-- Reads a document and writes what it holds. -/
def rewrite (bytes : Bytes) : Except Fault Bytes :=
  (read bytes).result.map fun catalog => Utf8.encode (write catalog)

/-- **Rereading.** Every target that is read has the right shape, so that a document holds all that
was read from it: what is written is read as the same catalogue, and written again it is the same
document. -/
theorem reread {bytes : Bytes} {catalog : Catalog} (h : (read bytes).result = .ok catalog) :
    (∀ context ∈ catalog.contexts, ∀ message ∈ context.messages,
      (message.numerus = true → ∃ forms, message.target = .plural forms) ∧
        (message.numerus = false → (∃ text, message.target = .singular text) ∨
          ∃ forms, forms ≠ [] ∧ message.target = .plural forms)) ∧
      (read (Utf8.encode (write catalog))).result = .ok catalog ∧
      rewrite bytes = .ok (Utf8.encode (write catalog)) ∧
      rewrite (Utf8.encode (write catalog)) = .ok (Utf8.encode (write catalog)) := by
  have hNormal := isNormal_of_read h
  -- what is normal is read as it was written
  have hAgain : (read (Utf8.encode (write catalog))).result = .ok catalog := by
    have hRead := value?_read_write catalog
    rw [Catalog.normalized_eq_self_iff.mpr hNormal] at hRead
    exact toOption_eq_some_iff.mp hRead
  refine ⟨fun context hContext message hMessage => ?_, hAgain, ?_, ?_⟩
  · have hTarget := hNormal context hContext message hMessage
    cases hShape : message.target with
    | singular text =>
      rw [hShape] at hTarget
      exact ⟨fun hNumerus => absurd (hNumerus.symm.trans hTarget) (by decide),
        fun _ => .inl ⟨text, rfl⟩⟩
    | plural forms =>
      rw [hShape] at hTarget
      refine ⟨fun _ => ⟨forms, rfl⟩, fun hNumerus => .inr ⟨forms, ?_, rfl⟩⟩
      rcases hTarget with hTrue | hForms
      · exact absurd (hNumerus.symm.trans hTrue) (by decide)
      · exact hForms
  · rw [rewrite, h]
    rfl
  · rw [rewrite, hAgain]
    rfl

/-- Text without forms, in front of the source and of the name of the context. -/
theorem reread_forms :
    let bytes := Utf8.encode ("<TS><context><message numerus=\"yes\"><translation>b<x/>"
      ++ "</translation><source>s&amp;</source></message><name/></context></TS>")
    let catalog : Catalog := {
      contexts := [{
        name := ""
        messages := [
          { source := "s&", target := .plural ["b"], status := .finished, numerus := true }] }] }
    (read bytes).result = .ok catalog ∧
      rewrite (Utf8.encode (write catalog)) = .ok (Utf8.encode (write catalog)) := by
  intro bytes catalog
  have hRead : (read bytes).result = .ok catalog := by decide +kernel
  exact ⟨hRead, (reread hRead).2.2.2⟩

end Linguist.Ts
