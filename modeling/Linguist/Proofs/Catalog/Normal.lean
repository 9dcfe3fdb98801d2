import Linguist.Catalog.Basic
import Mathlib.Data.List.TakeWhile

/-!
# Linguist — catalogues a document can hold

A document does not tell one form from a text, nor no form from an empty text:
the message decides, by whether it depends on a number. So two shapes of targets
do not come back from a document as they went into it. A catalogue is normal if
no message has one of them, and every catalogue has a normal form.

* `Catalog.normalized` — the normal form.
* `Catalog.normalized_eq_self_iff` — just the catalogues that are not normal are changed.
-/

namespace Linguist

/-! ## Blank texts -/

theorem trimChars_eq_nil_iff {cs : List Char} : trimChars cs = [] ↔ cs.all isBlank = true := by
  unfold trimChars
  rw [List.reverse_eq_nil_iff, List.dropWhile_eq_nil_iff, List.all_eq_true]
  simp only [List.mem_reverse]
  constructor
  · intro h
    rw [← List.dropWhile_eq_nil_iff]
    by_contra hRest
    -- the first character that is left is not blank, but all that are left are
    have hHead := List.head_dropWhile_not isBlank hRest
    rw [h _ (List.head_mem hRest)] at hHead
    exact absurd hHead (by decide)
  · intro h c hc
    rw [List.dropWhile_eq_nil_iff.mpr h] at hc
    exact absurd hc List.not_mem_nil

/-- A text is blank just if nothing is left of it once it is trimmed. -/
theorem isEmpty_trimmed (text : String) : (trimmed text).isEmpty = isBlankText text := by
  rw [Bool.eq_iff_iff, String.isEmpty_iff, isBlankText, ← trimChars_eq_nil_iff, trimmed,
    ← String.ofList_nil, String.ofList_inj]

/-! ## Normal forms -/

/-- A target as a document holds it. For a message that depends on a number a text is one form, or
none if nothing is left of it once it is trimmed; for another message no forms are the empty
text. -/
def Target.normalized (numerus : Bool) (target : Target) : Target :=
  match numerus, target with
  | true, .singular text => if (trimmed text).isEmpty then .plural [] else .plural [text]
  | false, .plural [] => .singular ""
  | _, target => target

/-- A message with its target as a document holds it. -/
def Message.normalized (message : Message) : Message :=
  { message with target := message.target.normalized message.numerus }

/-- A context with its messages as a document holds them. -/
def Context.normalized (context : Context) : Context :=
  { context with messages := context.messages.map Message.normalized }

/-- A catalogue as a document holds it. -/
def Catalog.normalized (catalog : Catalog) : Catalog :=
  { catalog with contexts := catalog.contexts.map Context.normalized }

/-! ## What is normal -/

/-- Whether a document can hold a target: as forms if the message depends on a number; otherwise as
a text, or as forms of which there are some. -/
def Target.IsNormal (numerus : Bool) : Target → Prop
  | .singular _ => numerus = false
  | .plural forms => numerus = true ∨ forms ≠ []

/-- Whether a document can hold the targets of a context. -/
def Context.IsNormal (context : Context) : Prop :=
  ∀ message ∈ context.messages, message.target.IsNormal message.numerus

/-- Whether a document can hold the targets of a catalogue. -/
def Catalog.IsNormal (catalog : Catalog) : Prop :=
  ∀ context ∈ catalog.contexts, context.IsNormal

/-- Whether the text of a message turns into forms. The empty text does not: it is written like no
forms at all. -/
def Message.IsRewritten (message : Message) : Prop :=
  message.numerus = true ∧ ∃ text, text ≠ "" ∧ message.target = .singular text

/-- Normal targets are those that stay as they are. -/
theorem Target.normalized_eq_self_iff {numerus : Bool} {target : Target} :
    target.normalized numerus = target ↔ target.IsNormal numerus := by
  unfold normalized IsNormal
  rcases target with text | (_ | ⟨form, forms⟩)
  · cases numerus with
    | false => simp
    -- a text never stays a text here, blank or not
    | true =>
      simp only [reduceCtorEq, iff_false]
      split <;> simp
  · cases numerus <;> simp
  · simp

/-- A target that is not normal has one of two shapes. -/
theorem Target.isNormal_iff {numerus : Bool} {target : Target} :
    target.IsNormal numerus ↔ ¬ (numerus = true ∧ ∃ text, target = .singular text) ∧
      ¬ (numerus = false ∧ target = .plural []) := by
  cases numerus <;> cases target <;> simp [IsNormal]

theorem Message.normalized_eq_self_iff {message : Message} :
    message.normalized = message ↔ message.target.IsNormal message.numerus := by
  rw [← Target.normalized_eq_self_iff]
  exact ⟨fun h => congrArg Message.target h, fun h => by rw [normalized, h]⟩

/-- A list stays as it is under a map just if its members do. -/
theorem map_eq_self_iff {α : Type} {f : α → α} {xs : List α} :
    xs.map f = xs ↔ ∀ x ∈ xs, f x = x := by
  have h : xs.map f = xs.map id ↔ ∀ x ∈ xs, f x = id x := List.map_inj_left
  rwa [List.map_id] at h

theorem Context.normalized_eq_self_iff {context : Context} :
    context.normalized = context ↔ context.IsNormal := by
  have hMessages : context.normalized = context ↔
      context.messages.map Message.normalized = context.messages :=
    ⟨fun h => congrArg Context.messages h, fun h => by rw [normalized, h]⟩
  rw [hMessages, map_eq_self_iff]
  exact forall₂_congr fun message _ => Message.normalized_eq_self_iff

/-- Normal catalogues are those that stay as they are. -/
theorem Catalog.normalized_eq_self_iff {catalog : Catalog} :
    catalog.normalized = catalog ↔ catalog.IsNormal := by
  have hContexts : catalog.normalized = catalog ↔
      catalog.contexts.map Context.normalized = catalog.contexts :=
    ⟨fun h => congrArg Catalog.contexts h, fun h => by rw [normalized, h]⟩
  rw [hContexts, map_eq_self_iff]
  exact forall₂_congr fun context _ => Context.normalized_eq_self_iff

end Linguist
