import Linguist.Proofs.Ts.Draft
import Linguist.Proofs.Ts.Stream

/-!
# Linguist — the reader finds what the tree means

Reading goes through the events of a document once; what a document means is
told of its tree. The two agree on every tree: an element is read up to its own
end tag and not beyond, whatever stands in it, so nothing of one element gets
into another.

* `value?_readMessage`, `value?_readContext`, `value?_readContexts` — one level each.
* `value?_readForest` — a forest that was built from the events of a root element.
* `read_tree` — a document whose events are those of a root element.
-/

namespace Linguist.Ts

open Xml
open Xml.Forest (Holds)

/-! ## Messages -/

theorem toOption_numerusOf (tag : Tag) : (numerusOf tag).toOption = numerus? tag := by
  unfold numerusOf numerus? attribute?
  cases textAttribute tag "numerus" with
  | error fault => rfl
  | ok value =>
    refine congrArg some (Bool.eq_iff_iff.mpr ?_)
    simp

/-- A message is its draft with the attributes of its tag. -/
theorem message?_eq (element : Element) (position : Nat) :
    message? element = (numerus? element.tag).bind fun numerus =>
      (attribute? element.tag "id").bind fun id =>
        (draft? numerus element.children).bind fun draft =>
          (draft.message id numerus position).toOption := by
  unfold message?
  congr 1
  funext numerus
  congr 1
  funext id
  unfold draft? Draft.message
  -- the source is asked for first, and only then may the other elements fail
  cases lastText? "source" element.children with
  | none => rfl
  | some source =>
    cases source with
    | none => simp [Option.bind_assoc]
    | some source => simp [Option.bind_assoc]

/-- The message that is read is the one its element means. -/
theorem value?_readMessage {tag : Tag} {body : Forest} {children : List Content} {close : Nat}
    (h : Holds body children (.closed close)) :
    (readMessage tag body).value? = message? ⟨tag, children⟩ := by
  rw [message?_eq _ close, readMessage]
  simp [toOption_numerusOf, (takes_readDraft _).value?_eq h, foldlM_take?, readDraft,
    Option.bind_assoc, attribute?, Element.children]

/-- A message without content means nothing, for it has no source text. -/
theorem message?_empty (tag : Tag) : message? ⟨tag, []⟩ = none := by
  rw [message?_eq _ 0]
  simp [Element.children, elements, draft?, lastText?_nil, named, Draft.message]

/-! ## Contexts -/

/-- A draft with what one element adds to it. -/
def ContextDraft.take? (draft : ContextDraft) (element : Element) : Option ContextDraft :=
  if element.tag.label = "name" then
    (text? element.content).map fun name => { draft with name }
  else if element.tag.label = "comment" then
    (text? element.content).map fun comment => { draft with comment }
  else if element.tag.label = "message" then
    (message? element).map fun message => { draft with messages := message :: draft.messages }
  else some draft

theorem value?_readContextDraft_empty {draft : ContextDraft} {tag : Tag} {position : Nat}
    {rest : Forest} :
    (readContextDraft draft (.empty tag position rest)).value?
      = (draft.take? ⟨tag, []⟩).bind fun draft => (readContextDraft draft rest).value? := by
  rw [readContextDraft, ContextDraft.take?]
  split
  · rename_i hLabel
    rw [if_pos hLabel]
    rfl
  · rename_i hLabel
    rw [if_neg (by simp [hLabel]), if_pos hLabel]
    rfl
  · -- a self-closed message is refused at once, and it means nothing
    rename_i hLabel
    rw [if_neg (by simp [hLabel]), if_neg (by simp [hLabel]), if_pos hLabel, message?_empty]
    rfl
  · rename_i hName hComment hMessage
    rw [if_neg hName, if_neg hComment, if_neg hMessage]
    rfl

theorem value?_readContextDraft_element {draft : ContextDraft} {tag : Tag}
    {position close : Nat} {body rest : Forest} {children : List Content}
    (hBody : Holds body children (.closed close)) :
    (readContextDraft draft (.element tag position body rest)).value?
      = (draft.take? ⟨tag, children⟩).bind fun draft => (readContextDraft draft rest).value? := by
  rw [readContextDraft, ContextDraft.take?]
  split
  · rename_i hLabel
    rw [if_pos hLabel]
    simp [value?_readText_closed hBody, Option.bind_assoc]
  · rename_i hLabel
    rw [if_neg (by simp [hLabel]), if_pos hLabel]
    simp [value?_readText_closed hBody, Option.bind_assoc]
  · rename_i hLabel
    rw [if_neg (by simp [hLabel]), if_neg (by simp [hLabel]), if_pos hLabel]
    simp [value?_readMessage hBody, Option.bind_map]
  · rename_i hName hComment hMessage
    rw [if_neg hName, if_neg hComment, if_neg hMessage]
    simp [value?_skip hBody]

/-- A draft takes the elements of a context one after the other. -/
theorem takes_readContextDraft : Takes ContextDraft.take? readContextDraft where
  text _ _ _ := by rw [readContextDraft]
  cdata _ _ _ := by rw [readContextDraft]
  empty _ _ _ _ := value?_readContextDraft_empty
  element _ _ _ {_ _ _} _ hBody := value?_readContextDraft_element hBody

/-- What the elements of a context make of a draft: the last name, the last comment, the messages
in front of the earlier ones. -/
theorem ContextDraft.foldlM_take? (elements : List Element) (draft : ContextDraft) :
    elements.foldlM take? draft = do
      let name ← lastText? "name" elements
      let comment ← lastText? "comment" elements
      let messages ← (named "message" elements).mapM message?
      return {
        name := name.or draft.name
        comment := comment.or draft.comment
        messages := messages.reverse ++ draft.messages } := by
  -- the three names differ, so an element counts for one field and is left out of the others
  induction elements generalizing draft with
  | nil => simp [lastText?_nil, named]
  | cons element others ih =>
    rw [List.foldlM_cons, take?]
    by_cases hName : element.tag.label = "name"
    · rw [if_pos hName, lastText?_cons_of_label hName,
        lastText?_cons_of_ne (by rw [hName]; decide), named_cons_of_ne (by rw [hName]; decide)]
      cases text? element.content <;> simp [ih, Option.bind_map, Function.comp_def]
    rw [if_neg hName, lastText?_cons_of_ne hName]
    by_cases hComment : element.tag.label = "comment"
    · rw [if_pos hComment, lastText?_cons_of_label hComment,
        named_cons_of_ne (by rw [hComment]; decide)]
      cases text? element.content <;> simp [ih, Option.bind_map, Function.comp_def]
    rw [if_neg hComment, lastText?_cons_of_ne hComment]
    by_cases hMessage : element.tag.label = "message"
    · rw [if_pos hMessage, named_cons_of_label hMessage, List.mapM_cons]
      cases message? element <;> simp [ih, Option.bind_assoc]
    · rw [if_neg hMessage, named_cons_of_ne hMessage]
      simp [ih]

/-- The context that is read is the one its element means. -/
theorem value?_readContext {tag : Tag} {body : Forest} {children : List Content} {close : Nat}
    (h : Holds body children (.closed close)) :
    (readContext tag body).value? = context? ⟨tag, children⟩ := by
  unfold readContext context?
  simp [takes_readContextDraft.value?_eq h, ContextDraft.foldlM_take?, readContextDraft,
    Option.bind_assoc, Element.children, attribute?]
  -- both ask for the encoding first, and then refuse a context without a name
  congr 1
  funext encoding
  cases lastText? "name" (elements children) with
  | none => rfl
  | some name => cases name <;> simp [ContextDraft.context]

/-- A context without content means nothing, for it has no name. -/
theorem context?_empty (tag : Tag) : context? ⟨tag, []⟩ = none := by
  unfold context?
  cases attribute? tag "encoding" <;> rfl

/-! ## The catalogue -/

/-- The contexts among some elements. -/
def contexts? (elements : List Element) : Option (List Context) :=
  (named "context" elements).mapM context?

theorem contexts?_append (a b : List Element) :
    contexts? (a ++ b) = inRow (contexts? a) (contexts? b) := by
  unfold contexts? inRow
  rw [named_append, List.mapM_append]
  simp [Option.map_eq_bind]

theorem contexts?_singleton_of_label {element : Element} (h : element.tag.label = "context") :
    contexts? [element] = (context? element).map ([·]) := by
  rw [contexts?, named_cons_of_label h, List.mapM_cons]
  cases context? element <;> rfl

theorem contexts?_singleton_of_ne {element : Element} (h : element.tag.label ≠ "context") :
    contexts? [element] = some [] := by
  rw [contexts?, named_cons_of_ne h]
  rfl

/-- The contexts of a catalogue are read one after the other. -/
theorem readsInRow_readContexts :
    ReadsInRow [] (fun piece => contexts? piece.element?.toList)
      (fun content => contexts? (elements content)) fun forest => (readContexts forest).value? where
  nil := rfl
  cons piece content := by rw [elements_cons, contexts?_append]
  silent _ := ⟨rfl, rfl, rfl⟩
  text _ _ := by
    rw [readContexts]
    exact (nothing_inRow _).symm
  cdata _ _ := by
    rw [readContexts]
    exact (nothing_inRow _).symm
  empty tag position rest := by
    rw [readContexts]
    simp only [Content.element?, Option.toList_some]
    split
    · rename_i hLabel
      rw [contexts?_singleton_of_label hLabel, context?_empty]
      rfl
    · rename_i hLabel
      rw [contexts?_singleton_of_ne hLabel, nothing_inRow]
  element tag position {_ _ _} rest hBody := by
    rw [readContexts]
    simp only [Content.element?, Option.toList_some]
    split
    · rename_i hLabel
      rw [contexts?_singleton_of_label hLabel]
      simp [value?_readContext hBody, inRow, Option.map_eq_bind, Option.bind_assoc]
    · rename_i hLabel
      rw [contexts?_singleton_of_ne hLabel, nothing_inRow]
      simp [value?_skip hBody]

/-- The contexts of a level are those of its elements. -/
theorem value?_readContexts {body : Forest} {content : List Content} {close : Nat}
    (h : Holds body content (.closed close)) :
    (readContexts body).value? = contexts? (elements content) := by
  rw [readsInRow_readContexts.eq_inRow h, readContexts]
  exact inRow_nothing _

/-- What stands in front of the root is passed over if it is no element. -/
theorem readForest_of_holds {forest rest : Forest} {content : List Content}
    (h : Holds forest content rest) (hNone : elements content = []) :
    readForest forest = readForest rest := by
  -- an element would be the root, whatever its name is
  induction h with
  | nil forest => rfl
  | text raw _ ih | cdata raw _ ih =>
    rw [readForest]
    exact ih hNone
  | comment raw _ ih | instruction raw _ ih | doctype raw _ ih => exact ih hNone
  | empty tag position _ ih => exact absurd hNone (by simp [elements, Content.element?])
  | element tag position close hBody _ _ ih =>
    exact absurd hNone (by simp [elements, Content.element?])

theorem toOption_readHeader (tag : Tag) :
    (readHeader tag).toOption = (attribute? tag "language").bind fun language =>
      (attribute? tag "sourcelanguage").bind fun sourceLanguage =>
        (attribute? tag "version").map fun version =>
          { language := language.getD "", sourceLanguage, version } := by
  simp [readHeader, attribute?, Option.map_eq_bind]

/-- A root element that is the first one is read as the catalogue it means, whatever follows it. -/
theorem value?_readForest_root {forest rest : Forest} {root : Content} {element : Element}
    (h : Holds forest [root] rest) (hRoot : root.element? = some element)
    (hLabel : element.tag.label = "TS") : (readForest forest).value? = catalog? element := by
  cases h with
  | text raw _ | cdata raw _ | comment raw _ | instruction raw _ | doctype raw _ =>
    exact absurd hRoot (by simp [Content.element?])
  | empty tag position _ =>
    obtain rfl : ⟨tag, []⟩ = element := Option.some.inj hRoot
    rw [readForest, if_pos hLabel]
    simp [toOption_readHeader, catalog?, Element.children, elements, named, Option.map_eq_bind]
  | element tag position close hBody _ =>
    obtain rfl : ⟨tag, _⟩ = element := Option.some.inj hRoot
    rw [readForest, if_pos hLabel]
    simp [toOption_readHeader, catalog?, Element.children, value?_readContexts hBody, contexts?,
      Option.map_eq_bind, Option.bind_assoc]

/-! ## Documents -/

section Documents

variable {before : List Content} {root : Content} {element : Element} {after : List Event}

/-- A forest from events that start with those of a root element, with nothing but other pieces in
front of it, is read as the catalogue of the root. -/
theorem value?_readForest {events : Events}
    (hEvents : events.items.map (·.event)
      = Content.eventsAll before ++ root.events ++ after)
    (hBefore : elements before = []) (hRoot : root.element? = some element)
    (hLabel : element.tag.label = "TS") :
    (readForest (Forest.ofEvents events)).value? = catalog? element := by
  have hRootAll : root.events = Content.eventsAll [root] := (List.append_nil root.events).symm
  -- the root is a level of one piece; what follows it is the rest of the document
  rw [hRootAll] at hEvents
  obtain ⟨middle, rest, hFirst, hSecond⟩ := Forest.holds_ofEvents hEvents
  rw [readForest_of_holds hFirst hBefore]
  exact value?_readForest_root hSecond hRoot hLabel

/-- **Reading refines the tree.** Where the events of a document start with those of a root element,
the document is read as the catalogue of the root, and it is refused just if the root means
none. -/
theorem read_tree {bytes : Bytes}
    (hEvents : (Events.ofBytes bytes).items.map (·.event)
      = Content.eventsAll before ++ root.events ++ after)
    (hBefore : elements before = []) (hRoot : root.element? = some element)
    (hLabel : element.tag.label = "TS") :
    (∀ catalog, (read bytes).result = .ok catalog ↔ catalog? element = some catalog) ∧
      ((∃ fault, (read bytes).result = .error fault) ↔ catalog? element = none) := by
  have hValue : (read bytes).result.toOption = catalog? element := by
    rw [read_eq_readForest]
    exact value?_readForest hEvents hBefore hRoot hLabel
  rw [← hValue]
  constructor
  · intro catalog
    exact toOption_eq_some_iff.symm
  · cases (read bytes).result <;> simp

end Documents

/-- A context inside an element that is not known does not count, nor does the earlier of two
sources; without a target the message is unfinished. -/
theorem read_tree_nested :
    (read (Utf8.encode ("<!--x--><TS><x><context/></x><context><name>a</name><message>"
        ++ "<source>r</source><source>s</source></message></context></TS> "))).result
      = .ok {
          contexts := [{
            name := "a"
            messages := [{
              source := "s"
              target := .singular ""
              status := .unfinished }] }] } := by
  refine ((@read_tree [.comment (Utf8.encode "x")]
    (.element ⟨Utf8.encode "TS"⟩ [
      .element ⟨Utf8.encode "x"⟩ [.empty ⟨Utf8.encode "context"⟩],
      .element ⟨Utf8.encode "context"⟩ [
        .element ⟨Utf8.encode "name"⟩ [.text (Utf8.encode "a")],
        .element ⟨Utf8.encode "message"⟩ [
          .element ⟨Utf8.encode "source"⟩ [.text (Utf8.encode "r")],
          .element ⟨Utf8.encode "source"⟩ [.text (Utf8.encode "s")]]]])
    _ [.text [0x20]] _ ?_ rfl rfl ?_).1 _).mpr ?_
  · decide +kernel
  · decide
  · decide +kernel

end Linguist.Ts
