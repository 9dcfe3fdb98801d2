import Linguist.Proofs.Ts.Refinement
import Linguist.Proofs.Ts.Written

/-!
# Linguist — written catalogues are read

A document that was written is always read, and it is read as the normal form of
the catalogue it was written from. Its events are those of one tree, line breaks
and blanks included, so what the reader finds is what the tree means; and as no
two trees have the same events, catalogues that are written alike differ in
nothing that a document holds.

* `events_write` — the events of a written catalogue.
* `write_normalized_iff` — which catalogues are written like their normal form.
* `read_write` — what comes back from a written catalogue.
-/

namespace Linguist.Ts

open Xml

/-! ## What is written can be read -/

theorem isWritable_onLines {nodes : List Node} (h : ∀ node ∈ nodes, node.IsWritable)
    (level below : Nat) : ∀ node ∈ onLines level nodes ++ [lineBreak below], node.IsWritable := by
  intro node hNode
  simp only [onLines, List.mem_append, List.mem_flatMap, List.mem_cons, List.not_mem_nil,
    or_false] at hNode
  rcases hNode with ⟨inner, hInner, rfl | rfl⟩ | rfl
  · exact .text _
  · exact h node hInner
  · exact .text _

theorem isWritable_textNodes (text : String) : ∀ node ∈ textNodes text, node.IsWritable := by
  intro node hNode
  rw [textNodes_eq] at hNode
  obtain ⟨piece, -, rfl⟩ := List.mem_map.mp hNode
  cases piece with
  | run characters => exact .text _
  | forbidden c =>
    exact .empty (by decide) (areWritable_singleton (by decide) (byteValue c))

theorem isWritable_textElement {name : String} (hName : IsWord name) (text : String) :
    (textElement name text).IsWritable :=
  .element hName ⟨by simp, List.nodup_nil⟩ (isWritable_textNodes text)

theorem isWritable_optionalElement {name : String} (hName : IsWord name) (text : Option String) :
    ∀ node ∈ optionalElement name text, node.IsWritable := by
  intro node hNode
  cases text with
  | none => exact absurd hNode (by simp [optionalElement])
  | some text =>
    obtain rfl : node = textElement name text := List.mem_singleton.mp hNode
    exact isWritable_textElement hName text

theorem isWritable_targetNodes (target : Target) : ∀ node ∈ target.nodes, node.IsWritable := by
  rcases target with text | (_ | ⟨form, forms⟩)
  · exact isWritable_textNodes text
  · intro node hNode
    exact absurd hNode (by simp [Target.nodes])
  · refine isWritable_onLines (fun node hNode => ?_) 3 2
    obtain ⟨text, -, rfl⟩ := List.mem_map.mp hNode
    exact isWritable_textElement (by decide) text

theorem isWritable_message (message : Message) : message.node.IsWritable := by
  refine .element (by decide) (areWritable_message message) (isWritable_onLines ?_ 2 1)
  intro node hNode
  simp only [Message.nodes, List.mem_append, List.mem_map, List.mem_singleton] at hNode
  -- in the order in which they are written
  rcases hNode with ((((((⟨location, -, rfl⟩ | rfl) | h) | h) | h) | h) | h) | rfl
  · exact .empty (by decide) (areWritable_location location)
  · exact isWritable_textElement (by decide) _
  · exact isWritable_optionalElement (by decide) _ node h
  · exact isWritable_optionalElement (by decide) _ node h
  · exact isWritable_optionalElement (by decide) _ node h
  · exact isWritable_optionalElement (by decide) _ node h
  · exact isWritable_optionalElement (by decide) _ node h
  · exact .element (by decide) (areWritable_status message.status)
      (isWritable_targetNodes message.target)

theorem isWritable_context (context : Context) : context.node.IsWritable := by
  refine .element (by decide) (areWritable_context context) (isWritable_onLines ?_ 1 0)
  intro node hNode
  simp only [List.cons_append, List.mem_cons, List.mem_append, List.mem_map] at hNode
  rcases hNode with rfl | h | ⟨message, -, rfl⟩
  · exact isWritable_textElement (by decide) _
  · exact isWritable_optionalElement (by decide) _ node h
  · exact isWritable_message message

/-- Every name in a written catalogue is a word, and no tag has a key twice. -/
theorem isWritable_catalog (catalog : Catalog) : catalog.node.IsWritable := by
  refine .element (by decide) (areWritable_catalog catalog) (isWritable_onLines ?_ 0 0)
  intro node hNode
  obtain ⟨context, -, rfl⟩ := List.mem_map.mp hNode
  exact isWritable_context context

/-! ## The events of a written catalogue -/

/-- What stands in front of the root element of a written catalogue. -/
def front : List Content :=
  [.instruction (Utf8.encode "xml version=\"1.0\" encoding=\"utf-8\""), .text [0x0A],
    .doctype (Utf8.encode "TS")]

/-- The root element of a catalogue as content. -/
def root (catalog : Catalog) : Content :=
  .element (Element.ofCatalog catalog).tag (Element.ofCatalog catalog).content

/-- A written catalogue as content. -/
def document (catalog : Catalog) : List Content :=
  front ++ [.text [0x0A], root catalog, .text [0x0A]]

theorem feed_prolog :
    Lexer.feed ⟨[], .fresh⟩ (Utf8.encode prolog)
      = some (Content.eventsAll front, ⟨[], .text [0x0A]⟩) := by
  rfl

/-- The walk over a written catalogue, up to the line break behind the root element. -/
theorem feed_document (catalog : Catalog) :
    Lexer.feed ⟨[], .fresh⟩ (Utf8.encode (prolog ++ catalog.node.render))
      = some (Content.eventsAll (front ++ [.text [0x0A], root catalog]), ⟨[], .fresh⟩) := by
  have hRoot : Lexer.feed ⟨[], .text [0x0A]⟩ (Utf8.encode catalog.node.render)
      = some (Content.eventsAll (Content.ofNodes [0x0A] [catalog.node]), ⟨[], .fresh⟩) :=
    Lexer.feed_render (isWritable_catalog catalog) [0x0A]
  -- the line break behind the prolog is still open when the root element begins
  have hContent : Content.ofNodes [0x0A] [catalog.node] = [.text [0x0A], root catalog] := by
    rw [Catalog.node, Content.ofNodes, Content.ofNodes]
    rfl
  rw [Utf8.encode_append, Lexer.feed_append feed_prolog hRoot, ← Content.eventsAll_append,
    hContent]

/-- A written catalogue does not start with a byte order mark. -/
theorem dropMark_encode_write (catalog : Catalog) :
    dropMark (Utf8.encode (write catalog)) = Utf8.encode (write catalog) := by
  obtain ⟨rest, hRest⟩ : ∃ rest, Utf8.encode (write catalog) = 0x3C :: rest := by
    rw [write, Utf8.encode_append, Utf8.encode_append]
    exact ⟨_, rfl⟩
  rw [hRest]
  rfl

/-- The events of a written catalogue are those of its content. -/
theorem events_write (catalog : Catalog) :
    (Events.ofBytes (Utf8.encode (write catalog))).items.map (·.event)
      = Content.eventsAll (document catalog) := by
  obtain ⟨items, hItems, hEvents⟩ :=
    Lexer.exists_eventsFrom_of_feed (feed_document catalog) 0 (Utf8.encode "\n")
  -- behind the root element stands a line break, which the end of the document makes an event
  rw [← Utf8.encode_append] at hEvents
  rw [Events.ofBytes, dropMark_encode_write]
  have hDocument : document catalog
      = (front ++ [.text [0x0A], root catalog]) ++ [.text [0x0A]] := rfl
  rw [write, hEvents, hDocument, Content.eventsAll_append, ← hItems]
  simp only [List.map_append]
  rfl

/-! ## Reading what was written -/

/-- What is written is read as its normal form. -/
theorem value?_read_write (catalog : Catalog) :
    (read (Utf8.encode (write catalog))).value? = some catalog.normalized := by
  -- no element stands in front of the root, so the root is the one that is read
  have hEvents : (Events.ofBytes (Utf8.encode (write catalog))).items.map (·.event)
      = Content.eventsAll (front ++ [.text [0x0A]]) ++ (root catalog).events
        ++ Content.eventsAll [.text [0x0A]] := by
    rw [events_write, document]
    simp [Content.eventsAll_append, Content.eventsAll]
  rw [← catalog?_ofCatalog, read_eq_readForest]
  exact value?_readForest hEvents rfl rfl (label_ofName (by decide))

/-! ## Writing what was read -/

/-- All targets but texts for a message that depends on a number are written like their normal
form, and so is an empty text. -/
theorem nodes_normalized {numerus : Bool} {target : Target}
    (h : ¬ (numerus = true ∧ ∃ text, text ≠ "" ∧ target = .singular text)) :
    (target.normalized numerus).nodes = target.nodes := by
  rcases target with text | (_ | ⟨form, forms⟩)
  · cases numerus with
    | false => rfl
    | true =>
      obtain rfl : text = "" := Decidable.not_not.mp fun hText => h ⟨rfl, text, hText, rfl⟩
      rfl
  · cases numerus <;> rfl
  · cases numerus <;> rfl

/-- The elements of a target and its normal form are told apart by a text that is not empty. -/
theorem not_of_ofTarget_eq {numerus : Bool} {target : Target} {status : Status}
    (h : Element.ofTarget (target.normalized numerus) status = Element.ofTarget target status) :
    ¬ (numerus = true ∧ ∃ text, text ≠ "" ∧ target = .singular text) := by
  rintro ⟨rfl, text, hText, rfl⟩
  rw [Target.normalized] at h
  split at h
  · -- a blank text left no content, so it was empty
    have hContent := congrArg (text? ·.content) h
    simp only [content_ofTarget_nil] at hContent
    have hRead : some "" = some text := hContent.trans (text?_textNodes text)
    exact hText (Option.some.inj hRead).symm
  · -- one side holds a form and the other none
    have hForms := congrArg (fun element => texts? "numerusform" element.children) h
    simp only [forms_ofTarget_plural, forms_ofTarget_singular] at hForms
    exact absurd (Option.some.inj hForms) (List.cons_ne_nil _ _)

/-- Catalogues that are written alike have the same root element. -/
theorem ofCatalog_eq_of_write_eq {a b : Catalog} (h : write a = write b) :
    Element.ofCatalog a = Element.ofCatalog b := by
  have hEvents : Content.eventsAll (document a) = Content.eventsAll (document b) := by
    rw [← events_write, ← events_write, h]
  -- nothing follows the documents, so the levels end there
  obtain ⟨hDocument, -⟩ := Content.eventsAll_append_inj (document a) (document b) endsLevel_nil
    endsLevel_nil (congrArg (· ++ []) hEvents)
  have hRoot := List.append_cancel_left hDocument
  simp only [List.cons.injEq, root, Content.element.injEq] at hRoot
  obtain ⟨-, ⟨hTag, hContent⟩, -⟩ := hRoot
  exact Element.ext hTag hContent

theorem not_isRewritten_of_ofMessage_eq {message : Message}
    (h : Element.ofMessage message.normalized = Element.ofMessage message) :
    ¬ message.IsRewritten := by
  -- the elements of two messages are told apart by the targets in them
  have hTarget := congrArg (fun element => named "translation" element.children) h
  simp only [named_translation_ofMessage, List.cons.injEq, and_true] at hTarget
  exact not_of_ofTarget_eq hTarget

theorem node_normalized {message : Message} (h : ¬ message.IsRewritten) :
    message.normalized.node = message.node := by
  have hNodes : message.normalized.target.nodes = message.target.nodes := nodes_normalized h
  unfold Message.node Message.nodes
  rw [hNodes]
  rfl

theorem Context.node_normalized {context : Context}
    (h : ∀ message ∈ context.messages, ¬ message.IsRewritten) :
    context.normalized.node = context.node := by
  have hMessages : context.normalized.messages.map Message.node
      = context.messages.map Message.node := by
    rw [Context.normalized, List.map_map]
    exact List.map_congr_left fun message hMessage => Ts.node_normalized (h message hMessage)
  unfold Context.node
  rw [hMessages]
  rfl

theorem forall_of_ofContext_eq {context : Context}
    (h : Element.ofContext context.normalized = Element.ofContext context) :
    ∀ message ∈ context.messages, ¬ message.IsRewritten := by
  have hMessages := congrArg (fun element => named "message" element.children) h
  simp only [named_message_ofContext, Context.normalized, List.map_map] at hMessages
  intro message hMessage
  exact not_isRewritten_of_ofMessage_eq (List.map_inj_left.mp hMessages message hMessage)

/-- Writing what was read gives the same document just if no text is written as a form. -/
theorem write_normalized_iff {catalog : Catalog} :
    write catalog.normalized = write catalog ↔
      ∀ context ∈ catalog.contexts, ∀ message ∈ context.messages, ¬ message.IsRewritten := by
  constructor
  -- the same document holds the same contexts, each at its own place
  · intro h context hContext
    have hContexts := congrArg Element.children (ofCatalog_eq_of_write_eq h)
    rw [children_ofCatalog, children_ofCatalog, Catalog.normalized, List.map_map] at hContexts
    exact forall_of_ofContext_eq (List.map_inj_left.mp hContexts context hContext)
  · intro h
    have hNodes : catalog.normalized.contexts.map Context.node
        = catalog.contexts.map Context.node := by
      rw [Catalog.normalized, List.map_map]
      exact List.map_congr_left fun context hContext => Context.node_normalized (h context hContext)
    unfold write Catalog.node
    rw [hNodes]
    rfl

/-- **Round trip.** A written catalogue is read as its normal form. The catalogue itself comes back
just if no message that depends on a number has a text and no other message has no forms; the
document stays the same just if no message that depends on a number has a text that is not
empty. -/
theorem read_write (catalog : Catalog) :
    (read (Utf8.encode (write catalog))).result = .ok catalog.normalized ∧
      (catalog.normalized = catalog ↔
        ∀ context ∈ catalog.contexts, ∀ message ∈ context.messages,
          ¬ (message.numerus = true ∧ ∃ text, message.target = .singular text) ∧
            ¬ (message.numerus = false ∧ message.target = .plural [])) ∧
      (write catalog.normalized = write catalog ↔
        ∀ context ∈ catalog.contexts, ∀ message ∈ context.messages,
          ¬ (message.numerus = true ∧ ∃ text, text ≠ "" ∧ message.target = .singular text)) := by
  refine ⟨toOption_eq_some_iff.mp (value?_read_write catalog), ?_, write_normalized_iff⟩
  rw [Catalog.normalized_eq_self_iff]
  exact forall₂_congr fun context _ => forall₂_congr fun message _ => Target.isNormal_iff

end Linguist.Ts
