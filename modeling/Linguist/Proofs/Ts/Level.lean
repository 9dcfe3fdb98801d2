import Linguist.Proofs.Notice
import Linguist.Proofs.Ts.Interpretation
import Mathlib.Data.Option.Basic

/-!
# Linguist — reading a level piece by piece

The reader goes through a level from the left, one piece after the other. What
it comes to is told by the content the level holds, in one of two ways: either
every piece adds a part to the value, or every element changes a draft. For both
it is enough to know what one piece does.

* `ReadsInRow.eq_inRow` — the value of a level is that of its pieces in a row.
* `Takes.value?_eq` — a draft takes the elements of a level one after the other.
-/

namespace Linguist.Ts

open Xml
open Xml.Forest (Holds)

/-! ## Content passed over -/

/-- An element whose end tag is there can be passed over. -/
theorem passOver_of_holds {tag : Tag} {body : Forest} {children : List Content} {close : Nat}
    (h : Holds body children (.closed close)) : passOver tag body = .ok () := by
  -- an element is passed over just if its own level is not cut off
  rw [passOver, h.stopped?_eq]
  rfl

theorem value?_skip {tag : Tag} {body : Forest} {children : List Content} {close : Nat}
    (h : Holds body children (.closed close)) : (skip tag body).value? = some () := by
  simp [skip, passOver_of_holds h]

/-! ## Elements of a name -/

theorem elements_cons (piece : Content) (content : List Content) :
    elements (piece :: content) = piece.element?.toList ++ elements content := by
  unfold elements
  rw [List.filterMap_cons]
  cases piece.element? <;> rfl

theorem named_append (label : String) (a b : List Element) :
    named label (a ++ b) = named label a ++ named label b :=
  List.filter_append a b

theorem named_cons_of_label {label : String} {element : Element} (h : element.tag.label = label)
    (others : List Element) : named label (element :: others) = element :: named label others :=
  List.filter_cons_of_pos (beq_iff_eq.mpr h)

theorem named_cons_of_ne {label : String} {element : Element} (h : element.tag.label ≠ label)
    (others : List Element) : named label (element :: others) = named label others :=
  List.filter_cons_of_neg (fun hEq => h (beq_iff_eq.mp hEq))

/-! ## Parts in a row -/

section InRow

variable {α : Type} [Append α]

/-- Two parts in a row, if there are both. -/
def inRow (first second : Option α) : Option α :=
  first.bind fun a => second.map (a ++ ·)

theorem inRow_assoc [Std.Associative (α := α) (· ++ ·)] (a b c : Option α) :
    inRow (inRow a b) c = inRow a (inRow b c) := by
  cases a <;> cases b <;> cases c <;> simp [inRow, Std.Associative.assoc]

variable {nothing : α} [Std.LawfulIdentity (α := α) (· ++ ·) nothing]

theorem nothing_inRow (a : Option α) : inRow (some nothing) a = a := by
  cases a <;> simp [inRow, Std.LawfulLeftIdentity.left_id]

theorem inRow_nothing (a : Option α) : inRow a (some nothing) = a := by
  cases a <;> simp [inRow, Std.LawfulRightIdentity.right_id]

/-- A reading of a level that adds up the parts of its pieces. What stands for nothing in a
document adds nothing. -/
structure ReadsInRow (nothing : α) (part? : Content → Option α)
    (parts? : List Content → Option α) (read : Forest → Option α) : Prop where
  nil : parts? [] = some nothing
  cons : ∀ piece content, parts? (piece :: content) = inRow (part? piece) (parts? content)
  silent : ∀ raw, part? (.comment raw) = some nothing ∧ part? (.instruction raw) = some nothing ∧
    part? (.doctype raw) = some nothing
  text : ∀ raw rest, read (.text raw rest) = inRow (part? (.text raw)) (read rest)
  cdata : ∀ raw rest, read (.cdata raw rest) = inRow (part? (.cdata raw)) (read rest)
  empty : ∀ tag position rest,
    read (.empty tag position rest) = inRow (part? (.empty tag)) (read rest)
  element : ∀ tag position {body children close} rest, Holds body children (.closed close) →
    read (.element tag position body rest) = inRow (part? (.element tag children)) (read rest)

/-- The value that is read is that of the content, and then that of the level behind it. -/
theorem ReadsInRow.eq_inRow [Std.Associative (α := α) (· ++ ·)] {part? : Content → Option α}
    {parts? : List Content → Option α} {read : Forest → Option α}
    (h : ReadsInRow nothing part? parts? read) {forest rest : Forest} {content : List Content}
    (hHolds : Holds forest content rest) : read forest = inRow (parts? content) (read rest) := by
  -- on the content of the level; an element counts as one piece, whatever stands inside it
  induction hHolds with
  | nil forest => rw [h.nil, nothing_inRow]
  | text raw _ ih => rw [h.text, h.cons, inRow_assoc, ih]
  | cdata raw _ ih => rw [h.cdata, h.cons, inRow_assoc, ih]
  | comment raw _ ih => rw [h.cons, (h.silent raw).1, nothing_inRow, ih]
  | instruction raw _ ih => rw [h.cons, (h.silent raw).2.1, nothing_inRow, ih]
  | doctype raw _ ih => rw [h.cons, (h.silent raw).2.2, nothing_inRow, ih]
  | empty tag position _ ih => rw [h.empty, h.cons, inRow_assoc, ih]
  | element tag position close hBody _ _ ih =>
    rw [h.element tag position _ hBody, h.cons, inRow_assoc, ih]

end InRow

/-! ## Drafts that take elements -/

/-- Elements are taken in order, what is no element is passed over. -/
theorem foldlM_elements_cons {α : Type} (take : α → Element → Option α) (a : α) (piece : Content)
    (content : List Content) :
    (elements (piece :: content)).foldlM take a
      = match piece.element? with
        | none => (elements content).foldlM take a
        | some element => (take a element).bind fun a => (elements content).foldlM take a := by
  rw [elements_cons]
  cases piece.element? <;> rfl

/-- A reading of a level that changes a draft with every element and passes over all else. -/
structure Takes {α β : Type} (take : α → Element → Option α) (read : α → Forest → Reading β) :
    Prop where
  text : ∀ a raw rest, read a (.text raw rest) = read a rest
  cdata : ∀ a raw rest, read a (.cdata raw rest) = read a rest
  empty : ∀ a tag position rest, (read a (.empty tag position rest)).value?
    = (take a ⟨tag, []⟩).bind fun a => (read a rest).value?
  element : ∀ a tag position {body children close} rest, Holds body children (.closed close) →
    (read a (.element tag position body rest)).value?
      = (take a ⟨tag, children⟩).bind fun a => (read a rest).value?

/-- A draft takes the elements of a level, and then the level behind it is read. -/
theorem Takes.value?_eq {α β : Type} {take : α → Element → Option α}
    {read : α → Forest → Reading β} (h : Takes take read) {forest rest : Forest}
    {content : List Content} (hHolds : Holds forest content rest) (a : α) :
    (read a forest).value?
      = ((elements content).foldlM take a).bind fun a => (read a rest).value? := by
  -- the draft changes on the way, so the statement is about every draft
  induction hHolds generalizing a with
  | nil forest => rfl
  | text raw _ ih =>
    rw [h.text, ih, foldlM_elements_cons]
    rfl
  | cdata raw _ ih =>
    rw [h.cdata, ih, foldlM_elements_cons]
    rfl
  -- these have left no trace in the forest, and they are no elements
  | comment raw _ ih | instruction raw _ ih | doctype raw _ ih =>
    rw [ih, foldlM_elements_cons]
    rfl
  | empty tag position _ ih =>
    rw [h.empty, foldlM_elements_cons]
    simp [ih, Content.element?, Option.bind_assoc]
  | element tag position close hBody _ _ ih =>
    rw [h.element a tag position _ hBody, foldlM_elements_cons]
    simp [ih, Content.element?, Option.bind_assoc]

end Linguist.Ts
