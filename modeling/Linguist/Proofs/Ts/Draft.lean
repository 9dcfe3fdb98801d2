import Linguist.Proofs.Ts.Target

/-!
# Linguist — drafts of messages

The content of a message is read into a draft, one element after the other, and
a later element may take the place of an earlier one. What comes out of it can
be told field by field without the order in which the fields were filled: the
last text of each name, the locations in a row, the last target.

* `takes_readDraft` — reading content adds its elements to the draft one by one.
* `foldlM_take?` — the draft of the elements of a message, field by field.
-/

namespace Linguist.Ts

open Xml
open Xml.Forest (Holds)

/-! ## Drafts of messages -/

/-- The text of a draft that an element of some name sets. -/
def Draft.textAt (draft : Draft) (label : String) : Option String :=
  match label with
  | "source" => draft.source
  | "oldsource" => draft.oldSource
  | "comment" => draft.comment
  | "oldcomment" => draft.oldComment
  | "extracomment" => draft.extraComment
  | "translatorcomment" => draft.translatorComment
  | _ => none

/-- A draft with the text of an element, if elements of that name carry text. -/
def Draft.setText (draft : Draft) (label text : String) : Draft :=
  (draft.setText? label text).getD draft

theorem Draft.textAt_setText {label : String} (h : isTextElement label = true) (draft : Draft)
    (text other : String) :
    (draft.setText label text).textAt other
      = if other = label then some text else draft.textAt other := by
  unfold isTextElement setText? at h
  unfold setText setText?
  -- one case for each name that carries text, and one for all the others
  split at h
  case h_7 => simp at h
  all_goals
    simp only [Option.getD_some]
    unfold textAt
    split <;> simp_all

theorem ne_of_isTextElement {label : String} (h : isTextElement label = true) :
    label ≠ "location" ∧ label ≠ "translation" := by
  constructor
  · rintro rfl
    exact absurd h (by decide)
  · rintro rfl
    exact absurd h (by decide)

theorem Draft.locations_setText (draft : Draft) (label text : String) :
    (draft.setText label text).locations = draft.locations := by
  unfold setText setText?
  split <;> rfl

theorem Draft.target_setText (draft : Draft) (label text : String) :
    (draft.setText label text).target = draft.target := by
  unfold setText setText?
  split <;> rfl

theorem Draft.setText_of_not_isTextElement {label : String} (h : isTextElement label = false)
    (draft : Draft) (text : String) : draft.setText label text = draft := by
  unfold isTextElement setText? at h
  unfold setText setText?
  split at h <;> simp_all

/-- A draft with one more location. -/
def Draft.addLocation (draft : Draft) (location : Location) : Draft :=
  { draft with locations := location :: draft.locations }

/-- A draft with a target. -/
def Draft.setTarget (draft : Draft) (target : Target × Status) : Draft :=
  { draft with target := some target }

/-- A draft with what one element adds to it. -/
def Draft.take? (numerus : Bool) (draft : Draft) (element : Element) : Option Draft :=
  if element.tag.label = "location" then (location? element).map draft.addLocation
  else if element.tag.label = "translation" then
    (targetAndStatus? numerus element).map draft.setTarget
  else if isTextElement element.tag.label then
    (text? element.content).map (draft.setText element.tag.label)
  else some draft

theorem toOption_locationOf (element : Element) :
    (locationOf element.tag).toOption = location? element := by
  unfold locationOf location? attribute?
  simp [Option.map_eq_bind]

theorem targetAndStatus?_empty (numerus : Bool) (tag : Tag) (position : Nat) :
    targetAndStatus? numerus ⟨tag, []⟩
      = (statusOf tag position).toOption.map fun status => (Target.blank numerus, status) := by
  -- the text of nothing is empty, so it is blank, and there are no forms
  have hBlank : target? numerus ⟨tag, []⟩ = some (Target.blank numerus) := by
    cases numerus <;> rfl
  unfold targetAndStatus?
  rw [toOption_statusOf, hBlank]
  cases status? tag <;> rfl

theorem value?_readDraft_empty {numerus : Bool} {draft : Draft} {tag : Tag} {position : Nat}
    {rest : Forest} :
    (readDraft numerus draft (.empty tag position rest)).value?
      = (draft.take? numerus ⟨tag, []⟩).bind fun draft =>
          (readDraft numerus draft rest).value? := by
  rw [readDraft, Draft.take?]
  -- a location, a target, or one of the others
  split
  · rename_i hLabel
    rw [if_pos hLabel, ← toOption_locationOf]
    simp [Draft.addLocation, Option.bind_map, Function.comp_def]
  · rename_i hLabel
    rw [if_neg (by simp [hLabel]), if_pos hLabel, targetAndStatus?_empty numerus tag position]
    simp [Draft.setTarget, Option.bind_map, Function.comp_def]
  · rename_i hLocation hTranslation
    rw [if_neg hLocation, if_neg hTranslation]
    split
    · rfl
    · -- an element that carries no text leaves the draft as it is
      rename_i hText
      have hSame := Draft.setText_of_not_isTextElement (Bool.eq_false_iff.mpr hText) draft ""
      rw [Draft.setText] at hSame
      rw [hSame]
      rfl

theorem value?_readDraft_element {numerus : Bool} {draft : Draft} {tag : Tag}
    {position close : Nat} {body rest : Forest} {children : List Content}
    (hBody : Holds body children (.closed close)) :
    (readDraft numerus draft (.element tag position body rest)).value?
      = (draft.take? numerus ⟨tag, children⟩).bind fun draft =>
          (readDraft numerus draft rest).value? := by
  rw [readDraft, Draft.take?]
  split
  · rename_i hLabel
    rw [if_pos hLabel, ← toOption_locationOf]
    simp [Draft.addLocation, Option.bind_map, Function.comp_def, passOver_of_holds hBody]
  · rename_i hLabel
    rw [if_neg (by simp [hLabel]), if_pos hLabel]
    simp [Draft.setTarget, Option.bind_map, Function.comp_def, value?_readTarget hBody]
  · rename_i hLocation hTranslation
    rw [if_neg hLocation, if_neg hTranslation]
    split
    · simp [Draft.setText, Option.bind_map, Function.comp_def, value?_readText_closed hBody]
    · simp [value?_skip hBody]

/-- A draft takes the elements of a message one after the other. -/
theorem takes_readDraft (numerus : Bool) : Takes (Draft.take? numerus) (readDraft numerus) where
  text _ _ _ := by rw [readDraft]
  cdata _ _ _ := by rw [readDraft]
  empty _ _ _ _ := value?_readDraft_empty
  element _ _ _ {_ _ _} _ hBody := value?_readDraft_element hBody

/-! ## Folding and looking up -/

theorem lastText?_nil (label : String) : lastText? label [] = some none :=
  rfl

theorem lastText?_cons_of_label {label : String} {element : Element}
    (h : element.tag.label = label) (others : List Element) :
    lastText? label (element :: others)
      = (text? element.content).bind fun s => (lastText? label others).map (·.or (some s)) := by
  unfold lastText?
  rw [texts?_cons_of_label h]
  cases text? element.content with
  | none => rfl
  | some s =>
    cases texts? label others with
    | none => rfl
    -- a later text counts before this one
    | some rest => cases hLast : rest.getLast? <;> simp [List.getLast?_cons, hLast]

theorem lastText?_cons_of_ne {label : String} {element : Element} (h : element.tag.label ≠ label)
    (others : List Element) : lastText? label (element :: others) = lastText? label others := by
  unfold lastText?
  rw [texts?_cons_of_ne h]

/-- What the elements of a message make of a draft, field by field: the last text of each name,
the locations in front of the earlier ones, the last target. -/
structure Draft.Follows (numerus : Bool) (elements : List Element) (before after : Draft) :
    Prop where
  texts : ∀ label, isTextElement label = true →
    (lastText? label elements).map (·.or (before.textAt label)) = some (after.textAt label)
  locations : ((named "location" elements).mapM location?).map
    (fun locations => locations.reverse ++ before.locations) = some after.locations
  target : ((named "translation" elements).mapM (targetAndStatus? numerus)).map
    (fun targets => targets.getLast?.or before.target) = some after.target

/-- A draft is its texts, its locations and its target. -/
theorem Draft.ext_textAt {a b : Draft}
    (hTexts : ∀ label, isTextElement label = true → a.textAt label = b.textAt label)
    (hLocations : a.locations = b.locations) (hTarget : a.target = b.target) : a = b := by
  have hSource := hTexts "source" rfl
  have hOldSource := hTexts "oldsource" rfl
  have hComment := hTexts "comment" rfl
  have hOldComment := hTexts "oldcomment" rfl
  have hExtra := hTexts "extracomment" rfl
  have hTranslator := hTexts "translatorcomment" rfl
  cases a
  cases b
  simp_all [textAt]

theorem Draft.follows_nil {numerus : Bool} {before after : Draft} :
    Draft.Follows numerus [] before after ↔ after = before := by
  constructor
  · rintro ⟨hTexts, hLocations, hTarget⟩
    refine ext_textAt (fun label hLabel => ?_) ?_ ?_
    · simpa [lastText?_nil, eq_comm] using hTexts label hLabel
    · simpa [named, eq_comm] using hLocations
    · simpa [named, eq_comm] using hTarget
  · rintro rfl
    exact ⟨fun label _ => by simp [lastText?_nil], by simp [named], by simp [named]⟩

/-- Elements and drafts that agree field by field lead to the same drafts. -/
theorem Draft.follows_congr {numerus : Bool} {elements elements' : List Element}
    {before before' after : Draft}
    (hTexts : ∀ label, isTextElement label = true →
      (lastText? label elements).map (·.or (before.textAt label))
        = (lastText? label elements').map (·.or (before'.textAt label)))
    (hLocations : ((named "location" elements).mapM location?).map
        (fun locations => locations.reverse ++ before.locations)
      = ((named "location" elements').mapM location?).map
        fun locations => locations.reverse ++ before'.locations)
    (hTarget : ((named "translation" elements).mapM (targetAndStatus? numerus)).map
        (fun targets => targets.getLast?.or before.target)
      = ((named "translation" elements').mapM (targetAndStatus? numerus)).map
        fun targets => targets.getLast?.or before'.target) :
    Draft.Follows numerus elements before after ↔
      Draft.Follows numerus elements' before' after := by
  constructor
  · rintro ⟨h1, h2, h3⟩
    exact ⟨fun label hLabel => hTexts label hLabel ▸ h1 label hLabel, hLocations ▸ h2,
      hTarget ▸ h3⟩
  · rintro ⟨h1, h2, h3⟩
    exact ⟨fun label hLabel => (hTexts label hLabel).symm ▸ h1 label hLabel, hLocations.symm ▸ h2,
      hTarget.symm ▸ h3⟩

/-- The texts of other names do not depend on an element. -/
theorem lastText?_cons_of_isTextElement {label : String} {element : Element}
    (hLabel : isTextElement label = true) (hElement : isTextElement element.tag.label = false)
    (others : List Element) : lastText? label (element :: others) = lastText? label others := by
  apply lastText?_cons_of_ne
  rintro rfl
  rw [hElement] at hLabel
  exact absurd hLabel (by decide)

section Cons

variable {numerus : Bool} {element : Element} {others : List Element} {before after : Draft}

/-- A location is put in front of the earlier ones. -/
theorem Draft.follows_cons_of_location (hLabel : element.tag.label = "location") :
    Draft.Follows numerus (element :: others) before after ↔
      ∃ location, location? element = some location ∧
        Draft.Follows numerus others (before.addLocation location) after := by
  have hNoText : isTextElement element.tag.label = false := by
    rw [hLabel]
    rfl
  have hTarget : named "translation" (element :: others) = named "translation" others :=
    named_cons_of_ne (by rw [hLabel]; decide) others
  cases hHere : location? element with
  | none =>
    constructor
    · rintro ⟨-, hLocations, -⟩
      simp [named_cons_of_label hLabel, hHere] at hLocations
    · rintro ⟨location, hNone, -⟩
      simp at hNone
  | some location =>
    simp only [Option.some.injEq, exists_eq_left']
    -- texts and target are left alone
    apply follows_congr
    · intro label hText
      rw [lastText?_cons_of_isTextElement hText hNoText]
      rfl
    · -- locations are kept last one first, so the new one ends up behind the later ones
      rw [named_cons_of_label hLabel, List.mapM_cons, hHere]
      cases (named "location" others).mapM location? <;> simp [addLocation]
    · rw [hTarget]
      rfl

/-- A target takes the place of an earlier one. -/
theorem Draft.follows_cons_of_translation (hLabel : element.tag.label = "translation") :
    Draft.Follows numerus (element :: others) before after ↔
      ∃ target, targetAndStatus? numerus element = some target ∧
        Draft.Follows numerus others (before.setTarget target) after := by
  have hNoText : isTextElement element.tag.label = false := by
    rw [hLabel]
    rfl
  have hLocations : named "location" (element :: others) = named "location" others :=
    named_cons_of_ne (by rw [hLabel]; decide) others
  cases hHere : targetAndStatus? numerus element with
  | none =>
    constructor
    · rintro ⟨-, -, hTarget⟩
      simp [named_cons_of_label hLabel, hHere] at hTarget
    · rintro ⟨target, hNone, -⟩
      simp at hNone
  | some target =>
    simp only [Option.some.injEq, exists_eq_left']
    apply follows_congr
    · intro label hText
      rw [lastText?_cons_of_isTextElement hText hNoText]
      rfl
    · rw [hLocations]
      rfl
    · rw [named_cons_of_label hLabel, List.mapM_cons, hHere]
      cases (named "translation" others).mapM (targetAndStatus? numerus) with
      | none => rfl
      | some targets =>
        -- a later target counts; without one it is this target and not the earlier one
        cases hLast : targets.getLast? <;> simp [List.getLast?_cons, hLast, setTarget]

/-- A text takes the place of an earlier one of the same name. -/
theorem Draft.follows_cons_of_text (hText : isTextElement element.tag.label = true) :
    Draft.Follows numerus (element :: others) before after ↔
      ∃ text, text? element.content = some text ∧
        Draft.Follows numerus others (before.setText element.tag.label text) after := by
  obtain ⟨hLocation, hTranslation⟩ := ne_of_isTextElement hText
  cases hHere : text? element.content with
  | none =>
    constructor
    · rintro ⟨hTexts, -, -⟩
      have hNone := hTexts _ hText
      simp [lastText?_cons_of_label rfl, hHere] at hNone
    · rintro ⟨text, hNone, -⟩
      simp at hNone
  | some text =>
    simp only [Option.some.injEq, exists_eq_left']
    apply follows_congr
    · intro label _
      rw [textAt_setText hText]
      -- only the text of this name is another one
      by_cases hEq : label = element.tag.label
      · rw [if_pos hEq, lastText?_cons_of_label hEq.symm, hHere]
        simp [Function.comp_def]
      · rw [if_neg hEq, lastText?_cons_of_ne fun h => hEq h.symm]
    · rw [named_cons_of_ne hLocation, locations_setText]
    · rw [named_cons_of_ne hTranslation, target_setText]

/-- An element of another name adds nothing. -/
theorem Draft.follows_cons_of_other (hLocation : element.tag.label ≠ "location")
    (hTranslation : element.tag.label ≠ "translation")
    (hText : isTextElement element.tag.label = false) :
    Draft.Follows numerus (element :: others) before after ↔
      Draft.Follows numerus others before after := by
  apply follows_congr
  · intro label hLabel
    rw [lastText?_cons_of_isTextElement hLabel hText]
  · rw [named_cons_of_ne hLocation]
  · rw [named_cons_of_ne hTranslation]

end Cons

theorem exists_map_eq_some_and {α β : Type} {x : Option α} {f : α → β} {p : β → Prop} :
    (∃ b, x.map f = some b ∧ p b) ↔ ∃ a, x = some a ∧ p (f a) := by
  cases x <;> simp

/-- Taking the elements of a message one after the other comes to what they make of the draft
field by field. -/
theorem Draft.foldlM_take?_eq_some_iff {numerus : Bool} {elements : List Element}
    {before after : Draft} :
    elements.foldlM (Draft.take? numerus) before = some after ↔
      Draft.Follows numerus elements before after := by
  -- the draft in front is any draft, as the first element has changed it already
  induction elements generalizing before with
  | nil =>
    rw [follows_nil, List.foldlM_nil]
    exact ⟨fun h => (Option.some.inj h).symm, fun h => congrArg some h.symm⟩
  | cons element others ih =>
    -- what the first element makes of the draft, and what the others make of that
    rw [List.foldlM_cons, Option.bind_eq_bind, Option.bind_eq_some_iff]
    simp only [ih]
    unfold take?
    by_cases hLocation : element.tag.label = "location"
    · rw [if_pos hLocation, follows_cons_of_location hLocation]
      exact exists_map_eq_some_and
    rw [if_neg hLocation]
    by_cases hTranslation : element.tag.label = "translation"
    · rw [if_pos hTranslation, follows_cons_of_translation hTranslation]
      exact exists_map_eq_some_and
    rw [if_neg hTranslation]
    by_cases hText : isTextElement element.tag.label = true
    · rw [if_pos hText, follows_cons_of_text hText]
      exact exists_map_eq_some_and
    · rw [if_neg hText,
        follows_cons_of_other hLocation hTranslation (Bool.eq_false_iff.mpr hText)]
      simp

/-! ## The draft of a message -/

/-- What the elements of a message make of an empty draft. -/
def draft? (numerus : Bool) (elements : List Element) : Option Draft := do
  let source ← lastText? "source" elements
  let oldSource ← lastText? "oldsource" elements
  let comment ← lastText? "comment" elements
  let oldComment ← lastText? "oldcomment" elements
  let extraComment ← lastText? "extracomment" elements
  let translatorComment ← lastText? "translatorcomment" elements
  let locations ← (named "location" elements).mapM location?
  let targets ← (named "translation" elements).mapM (targetAndStatus? numerus)
  return {
    source, oldSource, comment, oldComment, extraComment, translatorComment
    locations := locations.reverse
    target := targets.getLast? }

theorem Draft.follows_empty_iff {numerus : Bool} {elements : List Element} {after : Draft} :
    Draft.Follows numerus elements {} after ↔ draft? numerus elements = some after := by
  constructor
  · rintro ⟨hTexts, hLocations, hTarget⟩
    -- each field of the draft is named by one element
    have hSource := hTexts "source" rfl
    have hOldSource := hTexts "oldsource" rfl
    have hComment := hTexts "comment" rfl
    have hOldComment := hTexts "oldcomment" rfl
    have hExtra := hTexts "extracomment" rfl
    have hTranslator := hTexts "translatorcomment" rfl
    simp only [textAt, Option.or_none, Option.map_id_fun', id] at hSource hOldSource hComment
    simp only [textAt, Option.or_none, Option.map_id_fun', id] at hOldComment hExtra hTranslator
    simp only [Option.or_none, List.append_nil, Option.map_eq_some_iff] at hLocations hTarget
    obtain ⟨locations, hLocations, hReverse⟩ := hLocations
    obtain ⟨targets, hTargets, hLast⟩ := hTarget
    unfold draft?
    simp [hSource, hOldSource, hComment, hOldComment, hExtra, hTranslator, hLocations, hTargets,
      hReverse, hLast]
  · intro h
    simp only [draft?, Option.bind_eq_bind, Option.bind_eq_some_iff, Option.pure_def,
      Option.some.injEq] at h
    obtain ⟨source, hSource, oldSource, hOldSource, comment, hComment, oldComment, hOldComment,
      extra, hExtra, translator, hTranslator, locations, hLocations, targets, hTargets, rfl⟩ := h
    refine ⟨fun label hLabel => ?_, by simp [hLocations], by simp [hTargets]⟩
    unfold isTextElement setText? at hLabel
    split at hLabel
    case h_7 => simp at hLabel
    all_goals simp [textAt, *]

/-- The elements of a message make of an empty draft what each field says. -/
theorem foldlM_take? (numerus : Bool) (elements : List Element) :
    elements.foldlM (Draft.take? numerus) {} = draft? numerus elements := by
  ext after
  rw [Draft.foldlM_take?_eq_some_iff, Draft.follows_empty_iff]

end Linguist.Ts
