import Linguist.Proofs.Ts.Refinement
import Linguist.Proofs.Xml.SelfClosed

/-!
# Linguist — self-closed elements are read like those with an empty body

The reader has one branch for self-closed elements and another for all others,
at every level and with names of its own. The branches agree for every name but
one: a `byte` element stands for a character if it is self-closed, and is passed
over if it is not, wherever text is read. Levels that are alike but for this are
read alike, complete or cut off.

* `roleIn` — what the content of an element is read as, told by the elements around.
* `SpelledFreely` — where the spelling of an element does not matter.
* `ReadsInRow.congr`, `Takes.congr` — levels that are alike, for the two kinds of readers.
* `value?_readMessage_congr` up to `value?_readForest_congr` — one lemma for each level.
* `value?_readText_byte_ne` — the one element that is told apart by its spelling.
* `read_spelling` — documents that differ in the spelling of an element.
-/

namespace Linguist.Ts

open Xml
open Xml.Forest (Alike Holds)

/-! ## Roles -/

/-- What the content of an element is read as. -/
inductive Role where
  | document
  | catalogue
  | context
  | message
  | target
  | text
  /-- passed over -/
  | skipped
  deriving DecidableEq

/-- What the content of an element of this name is read as, inside of another. -/
def Role.enter (role : Role) (label : String) : Role :=
  match role with
  | .document => if label = "TS" then .catalogue else .skipped
  | .catalogue => if label = "context" then .context else .skipped
  | .context =>
    if label = "name" ∨ label = "comment" then .text
    else if label = "message" then .message
    else .skipped
  | .message =>
    if label = "translation" then .target else if isTextElement label then .text else .skipped
  | .target => if label = "numerusform" then .text else .skipped
  | .text | .skipped => .skipped

/-- What is read inside of some open elements, the innermost one first. -/
def roleIn (opened : List Bytes) : Role :=
  opened.foldr (fun name role => role.enter (Utf8.decodeLossy name)) .document

theorem roleIn_cons (tag : Tag) (opened : List Bytes) :
    roleIn (tag.name :: opened) = (roleIn opened).enter tag.label :=
  rfl

/-- Whether text is read inside of some open elements: that of a target, or any other. -/
def isInText (opened : List Bytes) : Bool :=
  roleIn opened = .target ∨ roleIn opened = .text

/-- Whether both spellings of an element mean the same: in text only a self-closed `byte` element
stands for a character. -/
def SpelledFreely (opened : List Bytes) (tag : Tag) : Prop :=
  tag.label = "byte" → isInText opened = false

theorem isInText_of_target {opened : List Bytes} (h : roleIn opened = .target) :
    isInText opened = true :=
  decide_eq_true (.inl h)

theorem isInText_of_enter {opened : List Bytes} {role : Role} {tag : Tag}
    (h : roleIn opened = role) (hText : role.enter tag.label = .text) :
    isInText (tag.name :: opened) = true :=
  decide_eq_true (.inr (by rw [roleIn_cons, h, hText]))

/-! ## Levels -/

section Levels

variable {permits : List Bytes → Tag → Prop} {inside : List Bytes} {body body' : Forest}

theorem isNone_stopped?_congr (h : Alike permits inside body body') :
    body.stopped?.isNone = body'.stopped?.isNone := by
  induction h with
  | closed => rfl
  | stop => rfl
  | text _ _ ih | cdata _ _ ih | empty _ _ _ _ ih | element _ _ _ _ _ _ ih
  | swapped _ _ _ _ _ _ ih => exact ih

theorem toOption_passOver (tag : Tag) (body : Forest) :
    (passOver tag body).toOption = if body.stopped?.isNone then some () else none := by
  unfold passOver
  split
  · rename_i hNone
    simp [hNone]
  · rename_i hSome
    simp [hSome]
  · rename_i hSome
    simp [hSome]

theorem toOption_passOver_congr (h : Alike permits inside body body') (tag : Tag) :
    (passOver tag body).toOption = (passOver tag body').toOption := by
  rw [toOption_passOver, toOption_passOver, isNone_stopped?_congr h]

theorem value?_skip_congr (h : Alike permits inside body body') (tag : Tag) :
    (skip tag body).value? = (skip tag body').value? := by
  unfold skip
  simp [toOption_passOver_congr h]

end Levels

/-- Levels that are alike have the same parts in a row, if this holds of elements with bodies that
are alike and if both spellings add the same. -/
theorem ReadsInRow.congr {α : Type} [Append α] {nothing : α} {part? : Content → Option α}
    {parts? : List Content → Option α} {read : Forest → Option α}
    (h : ReadsInRow nothing part? parts? read) {permits : List Bytes → Tag → Prop}
    (hClosed : ∀ p q, read (.closed p) = read (.closed q))
    (hStop : ∀ ending, read (.stop ending) = none) {inside : List Bytes}
    (hElement : ∀ tag p q body body' rest rest', Alike permits (tag.name :: inside) body body' →
      read rest = read rest' → read (.element tag p body rest) = read (.element tag q body' rest'))
    (hSwapped : ∀ tag, permits inside tag → part? (.empty tag) = part? (.element tag []))
    {a b : Forest} (hAlike : Alike permits inside a b) : read a = read b := by
  induction hAlike with
  | closed _ p q => exact hClosed p q
  | stop => rw [hStop, hStop]
  | text raw _ ih => rw [h.text, h.text, ih hElement hSwapped]
  | cdata raw _ ih => rw [h.cdata, h.cdata, ih hElement hSwapped]
  | empty tag p q _ ih => rw [h.empty, h.empty, ih hElement hSwapped]
  | element tag p q hBody _ _ ih => exact hElement tag p q _ _ _ _ hBody (ih hElement hSwapped)
  | swapped tag p q r hPermits _ ih =>
    rw [h.empty, h.element tag q _ (Holds.nil (.closed r)), hSwapped tag hPermits,
      ih hElement hSwapped]

/-- A draft becomes the same from levels that are alike, but for what `f` forgets, if this holds of
elements with bodies that are alike. A self-closed element is taken like one without content. -/
theorem Takes.congr {α β γ : Type} {take : α → Element → Option α} {read : α → Forest → Reading β}
    (h : Takes take read) {f : β → γ} {permits : List Bytes → Tag → Prop}
    (hClosed : ∀ a p q, (read a (.closed p)).value?.map f = (read a (.closed q)).value?.map f)
    (hStop : ∀ a ending, (read a (.stop ending)).value? = none) {inside : List Bytes}
    (hElement : ∀ a tag p q body body' rest rest', Alike permits (tag.name :: inside) body body' →
      (∀ a, (read a rest).value?.map f = (read a rest').value?.map f) →
      (read a (.element tag p body rest)).value?.map f
        = (read a (.element tag q body' rest')).value?.map f)
    {forest forest' : Forest} (hAlike : Alike permits inside forest forest') (a : α) : (read a forest).value?.map f = (read a forest').value?.map f := by
  -- the draft changes on the way, so the statement is about every draft
  induction hAlike generalizing a with
  | closed _ p q => exact hClosed a p q
  | stop => rw [hStop, hStop]
  | text raw _ ih => rw [h.text, h.text, ih hElement]
  | cdata raw _ ih => rw [h.cdata, h.cdata, ih hElement]
  | empty tag p q _ ih =>
    rw [h.empty, h.empty, Option.map_bind, Option.map_bind]
    exact congrArg _ (funext (ih hElement))
  | element tag p q hBody _ _ ih => exact hElement a tag p q _ _ _ _ hBody (ih hElement)
  | swapped tag p q r _ _ ih =>
    rw [h.empty, h.element a tag q _ (Holds.nil (.closed r)), Option.map_bind, Option.map_bind]
    exact congrArg _ (funext (ih hElement))

/-! ## Texts and targets -/

section Texts

variable {inside : List Bytes} {body body' : Forest}

/-- In text a `byte` element has one spelling only. -/
theorem SpelledFreely.characters?_eq {tag : Tag} (h : SpelledFreely inside tag)
    (hText : isInText inside = true) :
    characters? (.empty tag) = characters? (.element tag []) := by
  have hByte : tag.label ≠ "byte" := by
    intro hByte
    exact absurd (hText.symm.trans (h hByte)) (by decide)
  rw [characters?, if_neg hByte]
  rfl

/-- In text the spelling of a `byte` element always matters: self-closed it is a character or
refused, and it is nothing if its body is empty. -/
theorem value?_readText_byte_ne {label s : String} {tag : Tag} {p q r : Nat} {rest : Forest}
    (hByte : tag.label = "byte") (hRest : (readText label rest).value? = some s) :
    (readText label (.empty tag p rest)).value?
      ≠ (readText label (.element tag q (.closed r) rest)).value? := by
  have hEmpty : (readText label (.empty tag p rest)).value?
      = (byte? tag).map fun c => c.toString ++ s := by
    rw [readText, if_pos hByte]
    simp [toOption_byteChar, hRest, Option.map_eq_bind]
  have hElement : (readText label (.element tag q (.closed r) rest)).value? = some s := by
    rw [readText]
    simp [skip, passOver, Forest.stopped?, hRest]
  rw [hEmpty, hElement]
  cases byte? tag with
  | none => simp
  | some c =>
    intro hSame
    have hLength := congrArg String.length (Option.some.inj hSame)
    simp at hLength

theorem value?_readText_congr (label : String) (h : Alike SpelledFreely inside body body')
    (hText : isInText inside = true) :
    (readText label body).value? = (readText label body').value? := by
  refine (readsInRow_readText label).congr (fun _ _ => rfl) (fun _ => rfl) ?_
    (fun tag hTag => hTag.characters?_eq hText) h
  intro tag p q body body' rest rest' hBody hRest
  rw [readText, readText]
  simp [value?_skip_congr hBody, hRest]

theorem value?_readFilling_congr (h : Alike SpelledFreely inside body body')
    (hRole : roleIn inside = .target) :
    (readFilling body).value? = (readFilling body').value? := by
  refine readsInRow_readFilling.congr (fun _ _ => rfl) (fun _ => rfl) ?_ ?_ h
  · intro tag p q body body' rest rest' hBody hRest
    rw [readFilling, readFilling]
    split
    · rename_i hForm
      have hForms := value?_readText_congr "numerusform" hBody
        (isInText_of_enter hRole (by rw [hForm]; rfl))
      simp [hForms, hRest]
    · simp [value?_skip_congr hBody, hRest]
  · intro tag hTag
    -- both are forms without text, or neither is a form
    unfold fillingOf?
    rw [hTag.characters?_eq (isInText_of_target hRole)]
    rfl

theorem value?_readTarget_congr (numerus : Bool) (tag : Tag) (p q : Nat)
    (h : Alike SpelledFreely inside body body') (hRole : roleIn inside = .target) :
    (readTarget numerus tag p body).value? = (readTarget numerus tag q body').value? := by
  unfold readTarget
  simp [toOption_statusOf, value?_readFilling_congr h hRole]

end Texts

/-! ## Messages -/

section Messages

variable {inside : List Bytes} {body body' : Forest}

theorem value?_readDraft_congr (numerus : Bool) (h : Alike SpelledFreely inside body body')
    (hRole : roleIn inside = .message) (draft : Draft) :
    (readDraft numerus draft body).value?.map Prod.fst
      = (readDraft numerus draft body').value?.map Prod.fst := by
  refine (takes_readDraft numerus).congr (fun _ _ _ => rfl) (fun _ _ => rfl) ?_ h draft
  intro draft tag p q body body' rest rest' hBody hRest
  rw [readDraft, readDraft]
  -- a location, a target, a text, or what is not known
  split
  · simp [toOption_passOver_congr hBody, Option.map_bind, hRest]
  · rename_i hLabel
    have hTarget := value?_readTarget_congr numerus tag p q hBody
      (by rw [roleIn_cons, hRole, hLabel]; rfl)
    simp [hTarget, Option.map_bind, hRest]
  · split
    · rename_i hLabel
      obtain ⟨-, hTranslation⟩ := ne_of_isTextElement hLabel
      have hText := value?_readText_congr tag.label hBody
        (isInText_of_enter hRole (by rw [Role.enter, if_neg hTranslation, if_pos hLabel]))
      simp [hText, Option.map_bind, hRest]
    · simp [value?_skip_congr hBody, Option.map_bind, hRest]

theorem toOption_message (id : Option String) (numerus : Bool) (draft : Draft) (p q : Nat) :
    (draft.message id numerus p).toOption = (draft.message id numerus q).toOption := by
  unfold Draft.message
  cases draft.source <;> rfl

theorem value?_readMessage_congr (h : Alike SpelledFreely inside body body')
    (hRole : roleIn inside = .message) (tag : Tag) :
    (readMessage tag body).value? = (readMessage tag body').value? := by
  -- the position of the end is told in a fault only
  have hPosition : ∀ id numerus (end? : Draft × Nat), (end?.1.message id numerus end?.2).toOption
      = (end?.1.message id numerus 0).toOption := fun _ _ _ => toOption_message ..
  have hEnd : ∀ body, (readMessage tag body).value?
      = (numerusOf tag).toOption.bind fun numerus =>
        (textAttribute tag "id").toOption.bind fun id =>
          ((readDraft numerus {} body).value?.map Prod.fst).bind fun draft =>
            (draft.message id numerus 0).toOption := by
    intro body
    unfold readMessage
    simp only [Logged.value?_bind, Logged.value?_liftM, Option.bind_map, hPosition]
    rfl
  rw [hEnd, hEnd]
  simp only [value?_readDraft_congr _ h hRole]

end Messages

/-! ## Contexts and the catalogue -/

section Contexts

variable {inside : List Bytes} {body body' : Forest}

theorem value?_readContextDraft_congr (h : Alike SpelledFreely inside body body')
    (hRole : roleIn inside = .context) (draft : ContextDraft) :
    (readContextDraft draft body).value?.map Prod.fst
      = (readContextDraft draft body').value?.map Prod.fst := by
  refine takes_readContextDraft.congr (fun _ _ _ => rfl) (fun _ _ => rfl) ?_ h draft
  intro draft tag p q body body' rest rest' hBody hRest
  rw [readContextDraft, readContextDraft]
  split
  · rename_i hLabel
    have hName := value?_readText_congr "name" hBody
      (isInText_of_enter hRole (by rw [hLabel]; rfl))
    simp [hName, Option.map_bind, hRest]
  · rename_i hLabel
    have hComment := value?_readText_congr "comment" hBody
      (isInText_of_enter hRole (by rw [hLabel]; rfl))
    simp [hComment, Option.map_bind, hRest]
  · rename_i hLabel
    have hMessage := value?_readMessage_congr hBody
      (by rw [roleIn_cons, hRole, hLabel]; rfl) tag
    simp [hMessage, Option.map_bind, hRest]
  · simp [value?_skip_congr hBody, Option.map_bind, hRest]

theorem value?_readContext_congr (h : Alike SpelledFreely inside body body')
    (hRole : roleIn inside = .context) (tag : Tag) :
    (readContext tag body).value? = (readContext tag body').value? := by
  have hEnd : ∀ body, (readContext tag body).value?
      = (textAttribute tag "encoding").toOption.bind fun encoding =>
        ((readContextDraft {} body).value?.map Prod.fst).bind fun draft =>
          draft.name.map fun name => {
            name, encoding, comment := draft.comment, messages := draft.messages.reverse } := by
    intro body
    unfold readContext
    simp only [Logged.value?_bind, Logged.value?_liftM, Option.bind_map]
    congr 1
    funext encoding
    congr 1
    funext ⟨⟨name, comment, messages⟩, position⟩
    cases name <;> rfl
  rw [hEnd, hEnd, value?_readContextDraft_congr h hRole]

theorem value?_readContexts_congr (h : Alike SpelledFreely inside body body')
    (hRole : roleIn inside = .catalogue) :
    (readContexts body).value? = (readContexts body').value? := by
  refine readsInRow_readContexts.congr (fun _ _ => rfl) (fun _ => rfl) ?_ (fun _ _ => rfl) h
  intro tag p q body body' rest rest' hBody hRest
  rw [readContexts, readContexts]
  split
  · rename_i hLabel
    have hContext := value?_readContext_congr hBody
      (by rw [roleIn_cons, hRole, hLabel]; rfl) tag
    simp [hContext, hRest]
  · simp [value?_skip_congr hBody, hRest]

theorem value?_readForest_congr {a b : Forest} (h : Alike SpelledFreely [] a b) :
    (readForest a).value? = (readForest b).value? := by
  -- the level of the document is inside no element
  generalize hInside : [] = inside at h
  induction h with
  | closed => rfl
  | stop _ hEnding => cases hEnding <;> rfl
  | text raw _ ih | cdata raw _ ih =>
    rw [readForest, readForest]
    exact ih hInside
  | empty tag p q _ _ =>
    rw [readForest, readForest]
    split <;> rfl
  | element tag p q hBody _ _ _ =>
    rw [readForest, readForest]
    split
    · rename_i hLabel
      have hContexts := value?_readContexts_congr hBody
        (by rw [roleIn_cons, ← hInside, hLabel]; rfl)
      simp [hContexts]
    · rfl
  | @swapped _ a b tag p q r _ _ _ =>
    by_cases hLabel : tag.label = "TS"
    · have hEmpty : Holds (.empty tag p a) [.empty tag] a := .empty tag p (.nil a)
      have hElement : Holds (.element tag q (.closed r) b) [.element tag []] b :=
        .element tag q r (.nil _) (.nil b)
      rw [value?_readForest_root hEmpty rfl hLabel, value?_readForest_root hElement rfl hLabel]
    · rw [readForest, readForest, if_neg hLabel, if_neg hLabel]
      rfl

end Contexts

/-! ## Documents -/

/-- **Spelling.** An element that is read behind the start of a document, complete or not, may be
self-closed or have an empty body: the document is read as the same catalogue, or refused, either
way. Only a `byte` element in text is told apart by its spelling. -/
theorem read_spelling {before : Bytes} {events : List Event} {opened : List Bytes} {run : Bytes}
    {tag : Tag}
    (hBefore : Lexer.feed ⟨[], .fresh⟩ (dropMark before) = some (events, ⟨opened, .text run⟩))
    (hElement : IsElement tag) (hByte : tag.label = "byte" → isInText opened = false)
    (after : Bytes) (catalog : Catalog) :
    (read (before ++ (selfClosed tag ++ after))).result = .ok catalog ↔
      (read (before ++ (emptyBody tag ++ after))).result = .ok catalog := by
  have hAlike : Alike SpelledFreely [] (Forest.ofBytes (before ++ (selfClosed tag ++ after)))
      (Forest.ofBytes (before ++ (emptyBody tag ++ after))) :=
    Forest.alike_ofBytes hBefore hElement hByte after
  have hValue : (read (before ++ (selfClosed tag ++ after))).result.toOption
      = (read (before ++ (emptyBody tag ++ after))).result.toOption := by
    rw [read_eq_readForest, read_eq_readForest]
    exact value?_readForest_congr hAlike
  rw [← toOption_eq_some_iff, ← toOption_eq_some_iff, hValue]

/-- A source without text among character data, with a bracket in quotes, and a `byte` element in
something that is passed over in a source. -/
theorem read_spelling_quoted :
    let front := Utf8.encode "<TS><context><name>a</name><message>"
    let quoted : Tag := ⟨Utf8.encode "source k='>'"⟩
    let byte : Tag := ⟨Utf8.encode "byte value='65'"⟩
    let before := front ++ Utf8.encode "x"
    let after := Utf8.encode "</message></context></TS>"
    let before' := front ++ Utf8.encode "<source>a<b>"
    let after' := Utf8.encode "</b></source>" ++ after
    let catalog (source : String) : Catalog :=
      { contexts := [{ name := "a", messages := [Message.pending source] }] }
    (read (before ++ (selfClosed quoted ++ after))).result = .ok (catalog "") ∧
      (read (before ++ (emptyBody quoted ++ after))).result = .ok (catalog "") ∧
      (read (before' ++ (selfClosed byte ++ after'))).result = .ok (catalog "a") ∧
      (read (before' ++ (emptyBody byte ++ after'))).result = .ok (catalog "a") := by
  intro front quoted byte before after before' after' catalog
  have hQuoted : (read (before ++ (selfClosed quoted ++ after))).result = .ok (catalog "") :=
    toOption_eq_some_iff.mp (by decide +kernel)
  have hByte : (read (before' ++ (selfClosed byte ++ after'))).result = .ok (catalog "a") :=
    toOption_eq_some_iff.mp (by decide +kernel)
  have hBefore : Lexer.feed ⟨[], .fresh⟩ (dropMark before) = some (_, ⟨_, .text _⟩) := rfl
  have hBefore' : Lexer.feed ⟨[], .fresh⟩ (dropMark before') = some (_, ⟨_, .text _⟩) := rfl
  have hLabel : quoted.label ≠ "byte" := by decide +kernel
  exact ⟨hQuoted,
    (read_spelling hBefore ⟨rfl, rfl⟩ (fun h => absurd h hLabel) after _).mp hQuoted, hByte,
    (read_spelling hBefore' ⟨rfl, rfl⟩ (fun _ => by decide +kernel) after' _).mp hByte⟩

/-- A `byte` element in text is a character if it is self-closed, and nothing if it is not. -/
theorem read_spelling_byte :
    let before := Utf8.encode "<TS><context><name>C</name><message><source>a"
    let tag : Tag := ⟨Utf8.encode "byte value=\"x41\""⟩
    let after := Utf8.encode "b</source></message></context></TS>"
    let catalog (source : String) : Catalog :=
      { contexts := [{ name := "C", messages := [Message.pending source] }] }
    IsElement tag ∧
      (read (before ++ (selfClosed tag ++ after))).result = .ok (catalog "aAb") ∧
      (read (before ++ (emptyBody tag ++ after))).result = .ok (catalog "ab") := by
  intro before tag after catalog
  exact ⟨⟨rfl, rfl⟩, toOption_eq_some_iff.mp (by decide +kernel),
    toOption_eq_some_iff.mp (by decide +kernel)⟩

end Linguist.Ts
