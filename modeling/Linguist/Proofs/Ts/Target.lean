import Linguist.Proofs.Ts.Level

/-!
# Linguist — texts and targets are read as what they mean

A text and the filling of a target are both added up from the pieces of their
content, so for each it is enough to see that one piece is read as the part it
means.

* `value?_readText_closed` — an element that carries text is read as its text.
* `value?_readTarget` — a target is read as its forms or its text, with its status.
-/

namespace Linguist.Ts

open Xml
open Xml.Forest (Holds)

/-! ## Texts -/

instance lawfulIdentity_text : Std.LawfulIdentity (α := String) (· ++ ·) "" where
  left_id _ := String.empty_append
  right_id _ := String.append_empty

theorem toOption_byteChar (tag : Tag) (position : Nat) :
    (byteChar tag position).toOption = byte? tag := by
  unfold byteChar byte? attribute?
  cases textAttribute tag "value" with
  | error fault => rfl
  | ok value =>
    cases value with
    | none => rfl
    | some value =>
      simp only [toOption_ok, Option.bind_eq_bind, Option.bind_some]
      cases byteValue? value <;> rfl

theorem text?_cons (piece : Content) (content : List Content) :
    text? (piece :: content) = inRow (characters? piece) (text? content) := by
  unfold text? inRow
  rw [List.mapM_cons]
  cases characters? piece with
  | none => rfl
  | some s =>
    cases List.mapM characters? content with
    | none => rfl
    | some rest => exact congrArg some String.join_cons

/-- A text is read piece by piece. -/
theorem readsInRow_readText (label : String) :
    ReadsInRow "" characters? text? fun forest => (readText label forest).value? where
  nil := rfl
  cons := text?_cons
  silent _ := ⟨rfl, rfl, rfl⟩
  text raw rest := by
    rw [readText]
    simp [characters?, textOf, inRow, Option.map_eq_bind]
  cdata raw rest := by
    rw [readText]
    simp [characters?, inRow, Option.map_eq_bind]
  empty tag position rest := by
    rw [readText, characters?]
    -- only a self-closed `byte` element stands for a character
    split
    · simp [toOption_byteChar, inRow, Option.map_eq_bind, Option.bind_assoc]
    · exact (nothing_inRow _).symm
  element tag position {_ _ _} rest hBody := by
    rw [readText]
    simp [characters?, value?_skip hBody, inRow]

/-- The text of an element is that of its content. -/
theorem value?_readText_closed {label : String} {body : Forest} {content : List Content}
    {close : Nat} (h : Holds body content (.closed close)) :
    (readText label body).value? = text? content := by
  rw [(readsInRow_readText label).eq_inRow h, readText]
  exact inRow_nothing _

/-! ## Texts of elements -/

theorem texts?_nil (label : String) : texts? label [] = some [] :=
  rfl

theorem texts?_cons_of_label {label : String} {element : Element} (h : element.tag.label = label)
    (others : List Element) :
    texts? label (element :: others)
      = (text? element.content).bind fun s => (texts? label others).map (s :: ·) := by
  unfold texts?
  rw [named_cons_of_label h, List.mapM_cons]
  simp [Option.map_eq_bind]

theorem texts?_cons_of_ne {label : String} {element : Element} (h : element.tag.label ≠ label)
    (others : List Element) : texts? label (element :: others) = texts? label others := by
  unfold texts?
  rw [named_cons_of_ne h]

theorem texts?_append (label : String) (a b : List Element) :
    texts? label (a ++ b)
      = (texts? label a).bind fun xs => (texts? label b).map (xs ++ ·) := by
  unfold texts? named
  rw [List.filter_append, List.mapM_append]
  simp [Option.map_eq_bind]

theorem texts?_singleton_of_label {label : String} {tag : Tag} (h : tag.label = label)
    (content : List Content) : texts? label [⟨tag, content⟩] = (text? content).map ([·]) := by
  rw [texts?_cons_of_label h, texts?_nil]
  cases text? content <;> rfl

theorem texts?_singleton_of_ne {label : String} {tag : Tag} (h : tag.label ≠ label)
    (content : List Content) : texts? label [⟨tag, content⟩] = some [] := by
  rw [texts?_cons_of_ne h, texts?_nil]

/-! ## Targets -/

theorem toOption_statusOf (tag : Tag) (position : Nat) :
    (statusOf tag position).toOption = status? tag := by
  unfold statusOf status? attribute?
  cases textAttribute tag "type" with
  | error fault => rfl
  | ok value =>
    cases value with
    | none => rfl
    | some word =>
      simp only [toOption_ok, Option.bind_eq_bind, Option.bind_some]
      cases Status.ofText? word with
      | none => rfl
      | some status => rfl

instance appendFilling : Append Filling where
  append a b := ⟨a.text ++ b.text, a.forms ++ b.forms⟩

@[simp] theorem Filling.append_eq (a b : Filling) :
    a ++ b = ⟨a.text ++ b.text, a.forms ++ b.forms⟩ :=
  rfl

instance associative_filling : Std.Associative (α := Filling) (· ++ ·) where
  assoc a b c := by simp [String.append_assoc]

instance lawfulIdentity_filling : Std.LawfulIdentity (α := Filling) (· ++ ·) {} where
  left_id a := by simp
  right_id a := by simp

/-- What a piece of a target's content adds to it. -/
def fillingOf? (piece : Content) : Option Filling := do
  let text ← characters? piece
  let forms ← texts? "numerusform" piece.element?.toList
  return { text, forms }

/-- What the content of a target means. -/
def filling? (content : List Content) : Option Filling := do
  let text ← text? content
  let forms ← texts? "numerusform" (elements content)
  return { text, forms }

theorem filling?_cons (piece : Content) (content : List Content) :
    filling? (piece :: content) = inRow (fillingOf? piece) (filling? content) := by
  unfold filling? fillingOf?
  rw [text?_cons, elements_cons, texts?_append]
  -- text and forms may fail on their own, on both sides in another order
  cases characters? piece with
  | none => rfl
  | some s =>
    cases texts? "numerusform" piece.element?.toList with
    | none => cases text? content <;> rfl
    | some forms =>
      cases text? content with
      | none => rfl
      | some t => cases texts? "numerusform" (elements content) <;> rfl

theorem value?_readFilling_empty (tag : Tag) (position : Nat) (rest : Forest) :
    (readFilling (.empty tag position rest)).value?
      = inRow (fillingOf? (.empty tag)) (readFilling rest).value? := by
  rw [readFilling]
  -- a form without text, a character, or an element that says nothing
  split
  · rename_i hForm
    have hForms : texts? "numerusform" [⟨tag, []⟩] = some [""] :=
      texts?_singleton_of_label hForm []
    simp [fillingOf?, Content.element?, characters?, hForm, hForms, inRow, Option.map_eq_bind]
  · rename_i hByte
    have hForms : texts? "numerusform" [⟨tag, []⟩] = some [] :=
      texts?_singleton_of_ne (by simp [hByte]) []
    simp [fillingOf?, Content.element?, characters?, hByte, hForms, inRow,
      Option.map_eq_bind, toOption_byteChar, Option.bind_assoc]
  · rename_i hForm hByte
    have hForms : texts? "numerusform" [⟨tag, []⟩] = some [] :=
      texts?_singleton_of_ne hForm []
    rw [fillingOf?, characters?, if_neg hByte]
    simp [Content.element?, hForms]
    exact (nothing_inRow _).symm

theorem value?_readFilling_element {tag : Tag} {position close : Nat} {body rest : Forest}
    {children : List Content} (hBody : Holds body children (.closed close)) :
    (readFilling (.element tag position body rest)).value?
      = inRow (fillingOf? (.element tag children)) (readFilling rest).value? := by
  rw [readFilling]
  split
  · rename_i hForm
    simp [fillingOf?, Content.element?, characters?, texts?_singleton_of_label hForm,
      value?_readText_closed hBody, inRow, Option.map_eq_bind,
      Option.bind_assoc]
  · rename_i hForm
    simp [fillingOf?, Content.element?, characters?, texts?_singleton_of_ne hForm,
      value?_skip hBody]
    exact (nothing_inRow _).symm

/-- A filling is read piece by piece. -/
theorem readsInRow_readFilling :
    ReadsInRow {} fillingOf? filling? fun forest => (readFilling forest).value? where
  nil := rfl
  cons := filling?_cons
  silent _ := ⟨rfl, rfl, rfl⟩
  text raw rest := by
    rw [readFilling]
    simp [fillingOf?, texts?_nil, Content.element?, characters?, textOf, inRow,
      Option.map_eq_bind, Option.bind_assoc]
  cdata raw rest := by
    rw [readFilling]
    simp [fillingOf?, texts?_nil, Content.element?, characters?, inRow, Option.map_eq_bind]
  empty := value?_readFilling_empty
  element _ _ {_ _ _} _ hBody := value?_readFilling_element hBody

theorem target?_eq (numerus : Bool) (element : Element) :
    target? numerus element = (filling? element.content).map (Filling.target numerus) := by
  unfold target? filling? Element.children
  cases text? element.content with
  | none => rfl
  | some text =>
    cases texts? "numerusform" (elements element.content) with
    | none => rfl
    | some forms =>
      -- with a form the text does not count; without one the message tells what becomes of it
      cases forms with
      | nil => cases numerus <;> simp [Filling.target]
      | cons form forms => simp [Filling.target]

/-- The target that is read is the one the element means. -/
theorem value?_readTarget {numerus : Bool} {tag : Tag} {position close : Nat} {body : Forest}
    {children : List Content} (h : Holds body children (.closed close)) :
    (readTarget numerus tag position body).value? = targetAndStatus? numerus ⟨tag, children⟩ := by
  have hFilling : (readFilling body).value? = filling? children := by
    rw [readsInRow_readFilling.eq_inRow h, readFilling]
    exact inRow_nothing _
  unfold readTarget targetAndStatus?
  rw [target?_eq]
  simp [toOption_statusOf, hFilling, Option.map_eq_bind, Option.bind_assoc]

end Linguist.Ts
