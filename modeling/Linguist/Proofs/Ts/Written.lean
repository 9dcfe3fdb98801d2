import Linguist.Proofs.Catalog.Normal
import Linguist.Proofs.Ts.WrittenNode

/-!
# Linguist — what a written catalogue means

The tree of a catalogue means the normal form of the catalogue. Every part has
an element of its own, so each is told from the parts it holds: targets, then
messages, contexts and the catalogue. What stands between the elements, line
breaks and blanks, means nothing.

* `target?_ofTarget`, `message?_ofMessage`, `context?_ofContext` — one part each.
* `catalog?_ofCatalog` — the whole catalogue.
-/

namespace Linguist.Ts

open Xml

/-! ## Elements of a level -/

theorem filterMap_onLines (level : Nat) (nodes : List Node) :
    (onLines level nodes).filterMap Node.element? = nodes.filterMap Node.element? := by
  unfold onLines
  induction nodes with
  | nil => rfl
  | cons node nodes ih =>
    rw [List.flatMap_cons, List.filterMap_append, ih, List.filterMap_cons (l := nodes)]
    cases node <;> rfl

/-- The elements of a level are those written on its lines. -/
theorem elements_onLines (level below : Nat) (nodes : List Node) :
    elements (Content.ofNodes [] (onLines level nodes ++ [lineBreak below]))
      = nodes.filterMap Node.element? := by
  rw [elements_ofNodes, List.filterMap_append, filterMap_onLines]
  exact List.append_nil _

section Named

variable {α : Type} {element : α → Element} {name label : String}

/-- Elements that are all written with one name are named so, and not otherwise. -/
theorem named_map_ofName (hName : IsWord name)
    (hTag : ∀ a, ∃ attributes, (element a).tag = Tag.ofName name attributes) (xs : List α) :
    named label (xs.map element) = if name = label then xs.map element else [] := by
  have hLabel : ∀ a, (element a).tag.label = name := by
    intro a
    obtain ⟨attributes, h⟩ := hTag a
    rw [h, label_ofName hName]
  unfold named
  split
  · rename_i hEq
    rw [List.filter_eq_self]
    intro e he
    obtain ⟨a, -, rfl⟩ := List.mem_map.mp he
    rw [hLabel a, hEq]
    exact beq_self_eq_true label
  · rename_i hNe
    rw [List.filter_eq_nil_iff]
    intro e he
    obtain ⟨a, -, rfl⟩ := List.mem_map.mp he
    rw [hLabel a]
    simp [hNe]

/-- The element that a text is written as. -/
def Element.ofText (name text : String) : Element :=
  ⟨Tag.ofName name [], Content.ofNodes [] (textNodes text)⟩

theorem named_map_ofText (hName : IsWord name) (texts : List String) :
    named label (texts.map (Element.ofText name))
      = if name = label then texts.map (Element.ofText name) else [] :=
  named_map_ofName hName (fun _ => ⟨[], rfl⟩) texts

theorem filterMap_textElement (name : String) (texts : List String) :
    (texts.map (textElement name)).filterMap Node.element? = texts.map (Element.ofText name) := by
  rw [List.filterMap_map]
  exact congrFun List.filterMap_eq_map texts

theorem mapM_ofText (name : String) (texts : List String) :
    (texts.map (Element.ofText name)).mapM (fun element => text? element.content) = some texts := by
  rw [mapM_map_eq_some (f := Element.ofText name) (g := fun element => text? element.content)
    (h := id) text?_textNodes, List.map_id]

end Named

/-! ## Targets -/

/-- The element of a target. -/
def Element.ofTarget (target : Target) (status : Status) : Element :=
  ⟨Tag.ofName "translation" (optionalAttribute "type" status.attribute?),
    Content.ofNodes [] target.nodes⟩

theorem areWritable_status (status : Status) :
    AreWritable (optionalAttribute "type" status.attribute?) := by
  refine areWritable_of_sublist ["type"] ?_ (by decide) (by decide)
  cases status <;> decide

/-- The status of a target is written and read. -/
theorem status?_ofTarget (target : Target) (status : Status) :
    status? (Element.ofTarget target status).tag = some status := by
  unfold status? Element.ofTarget
  rw [attribute?_ofName (by decide) (areWritable_status status)]
  cases status <;> rfl

/-- The text around written forms can be read. -/
theorem text?_onLines (level below : Nat) (name : String) (texts : List String) :
    ∃ s, text? (Content.ofNodes [] (onLines level (texts.map (textElement name))
      ++ [lineBreak below])) = some s := by
  have hFresh : [] = Utf8.encode (escape "") := rfl
  rw [hFresh, text?_ofNodes, nothing_inRow]
  unfold onLines
  induction texts with
  | nil => exact ⟨_, rfl⟩
  | cons s texts ih =>
    obtain ⟨rest, hRest⟩ := ih
    rw [List.map_cons, List.flatMap_cons, List.append_assoc]
    simp only [List.cons_append, List.nil_append, nodeTexts?_cons, hRest]
    exact ⟨_, rfl⟩

/-- The only elements inside a written text are those of characters. -/
theorem named_textNodes {label : String} (hLabel : label ≠ "byte") (text : String) :
    named label ((textNodes text).filterMap Node.element?) = [] := by
  have hByte : IsWord "byte" := by decide
  unfold named
  rw [List.filter_eq_nil_iff]
  intro element hElement
  obtain ⟨node, hNode, hSome⟩ := List.mem_filterMap.mp hElement
  rw [textNodes_eq] at hNode
  obtain ⟨piece, -, rfl⟩ := List.mem_map.mp hNode
  -- a run is no element, and a character that cannot stand in text is a `byte` element
  cases piece with
  | run characters => exact absurd hSome (by simp [Piece.node, Node.element?])
  | forbidden c =>
    obtain rfl := Option.some.inj hSome
    rw [label_ofName hByte]
    exact fun h => hLabel (beq_iff_eq.mp h).symm

/-- A written text holds no forms. -/
theorem forms_ofTarget_singular (text : String) (status : Status) :
    texts? "numerusform" (Element.ofTarget (.singular text) status).children = some [] := by
  rw [Element.children, Element.ofTarget, Target.nodes, elements_ofNodes, texts?,
    named_textNodes (by decide), List.mapM_nil]
  rfl

theorem content_ofTarget_nil (status : Status) :
    (Element.ofTarget (.plural []) status).content = [] := by
  rw [Element.ofTarget, Target.nodes, Content.ofNodes]
  rfl

/-- Written forms are read as they are. -/
theorem forms_ofTarget_plural (forms : List String) (status : Status) :
    texts? "numerusform" (Element.ofTarget (.plural forms) status).children = some forms := by
  cases forms with
  | nil =>
    rw [Element.children, content_ofTarget_nil]
    rfl
  | cons form forms =>
    rw [Element.children, Element.ofTarget, Target.nodes, elements_onLines, filterMap_textElement,
      texts?, named_map_ofText (by decide), if_pos rfl, mapM_ofText]
    exact List.cons_ne_nil form forms

/-- A written target is read as its normal form. -/
theorem target?_ofTarget (numerus : Bool) (target : Target) (status : Status) :
    target? numerus (Element.ofTarget target status) = some (target.normalized numerus) := by
  unfold target?
  rcases target with text | (_ | ⟨form, forms⟩)
  · have hText : text? (Element.ofTarget (.singular text) status).content = some text :=
      text?_textNodes text
    rw [hText, forms_ofTarget_singular]
    cases numerus
    · rfl
    · simp [Target.normalized, ← isEmpty_trimmed]
  · rw [content_ofTarget_nil, forms_ofTarget_plural]
    cases numerus <;> rfl
  · -- the text between the forms does not count, but it must be readable
    obtain ⟨s, hText⟩ : ∃ s, text? (Element.ofTarget (.plural (form :: forms)) status).content
        = some s := text?_onLines 3 2 "numerusform" (form :: forms)
    rw [hText, forms_ofTarget_plural]
    cases numerus <;> rfl

/-- A written target is read as its normal form with its status. -/
theorem targetAndStatus?_ofTarget (numerus : Bool) (target : Target) (status : Status) :
    targetAndStatus? numerus (Element.ofTarget target status)
      = some (target.normalized numerus, status) := by
  unfold targetAndStatus?
  rw [status?_ofTarget, target?_ofTarget]
  rfl

/-! ## Messages -/

/-- The element of a location. -/
def Element.ofLocation (location : Location) : Element :=
  ⟨Tag.ofName "location" (optionalAttribute "filename" location.filename
    ++ optionalAttribute "line" location.line), []⟩

theorem areWritable_location (location : Location) :
    AreWritable (optionalAttribute "filename" location.filename
      ++ optionalAttribute "line" location.line) := by
  refine areWritable_of_sublist ["filename", "line"] ?_ (by decide) (by decide)
  obtain ⟨_ | filename, _ | line⟩ := location <;> simp [optionalAttribute]

/-- A written location is read as it is. -/
theorem location?_ofLocation (location : Location) :
    location? (Element.ofLocation location) = some location := by
  have hName : IsWord "location" := by decide
  unfold location? Element.ofLocation
  simp only [attribute?_ofName hName (areWritable_location location)]
  obtain ⟨_ | filename, _ | line⟩ := location <;> rfl

/-- The elements inside the element of a message. -/
def Message.elements (message : Message) : List Element :=
  message.locations.map Element.ofLocation
    ++ [message.source].map (Element.ofText "source")
    ++ message.oldSource.toList.map (Element.ofText "oldsource")
    ++ message.comment.toList.map (Element.ofText "comment")
    ++ message.oldComment.toList.map (Element.ofText "oldcomment")
    ++ message.extraComment.toList.map (Element.ofText "extracomment")
    ++ message.translatorComment.toList.map (Element.ofText "translatorcomment")
    ++ [message].map fun message => Element.ofTarget message.target message.status

theorem filterMap_optionalElement (name : String) (text : Option String) :
    (optionalElement name text).filterMap Node.element?
      = text.toList.map (Element.ofText name) := by
  cases text <;> rfl

theorem filterMap_locationNodes (locations : List Location) :
    (locations.map Location.node).filterMap Node.element? = locations.map Element.ofLocation := by
  rw [List.filterMap_map]
  exact congrFun List.filterMap_eq_map locations

theorem filterMap_messageNodes (message : Message) :
    message.nodes.filterMap Node.element? = Message.elements message := by
  simp only [Message.nodes, Message.elements, List.filterMap_append, filterMap_optionalElement,
    filterMap_locationNodes]
  rfl

theorem named_map_ofLocation (label : String) (locations : List Location) :
    named label (locations.map Element.ofLocation)
      = if "location" = label then locations.map Element.ofLocation else [] :=
  named_map_ofName (by decide) (fun _ => ⟨_, rfl⟩) locations

theorem named_map_ofTarget (label : String) (messages : List Message) :
    named label (messages.map fun message => Element.ofTarget message.target message.status)
      = if "translation" = label then
          messages.map fun message => Element.ofTarget message.target message.status
        else [] :=
  named_map_ofName (by decide) (fun _ => ⟨_, rfl⟩) messages

/-- The element of a message. -/
def Element.ofMessage (message : Message) : Element :=
  ⟨Tag.ofName "message" (optionalAttribute "id" message.id
      ++ if message.numerus then [("numerus", "yes")] else []),
    Content.ofNodes [] (onLines 2 message.nodes ++ [lineBreak 1])⟩

theorem children_ofMessage (message : Message) :
    (Element.ofMessage message).children = Message.elements message := by
  rw [Element.children, Element.ofMessage, elements_onLines, filterMap_messageNodes]

theorem named_translation_ofMessage (message : Message) :
    named "translation" (Element.ofMessage message).children
      = [Element.ofTarget message.target message.status] := by
  simp (disch := decide) only [children_ofMessage, Message.elements, named_append,
    named_map_ofText, named_map_ofLocation, named_map_ofTarget, reduceIte, String.reduceEq,
    List.nil_append]
  rfl

theorem areWritable_message (message : Message) :
    AreWritable (optionalAttribute "id" message.id
      ++ if message.numerus then [("numerus", "yes")] else []) := by
  refine areWritable_of_sublist ["id", "numerus"] ?_ (by decide) (by decide)
  -- an attribute that is left out only makes the list of keys shorter
  cases message.id <;> cases message.numerus <;> simp [optionalAttribute]

/-- A written message is read as its normal form. -/
theorem message?_ofMessage (message : Message) :
    message? (Element.ofMessage message) = some message.normalized := by
  have hNumerus : numerus? (Element.ofMessage message).tag = some message.numerus := by
    rw [numerus?, Element.ofMessage, attribute?_ofName (by decide) (areWritable_message message)]
    cases message.id <;> cases message.numerus <;> rfl
  have hId : attribute? (Element.ofMessage message).tag "id" = some message.id := by
    rw [Element.ofMessage, attribute?_ofName (by decide) (areWritable_message message)]
    cases message.id <;> cases message.numerus <;> rfl
  have hLocations : (message.locations.map Element.ofLocation).mapM location?
      = some message.locations := by
    rw [mapM_map_eq_some (h := id) location?_ofLocation, List.map_id]
  unfold message?
  rw [hNumerus, hId, children_ofMessage]
  -- all names differ, so of the elements in a row each name leaves its own
  simp (disch := decide) only [lastText?, texts?, Message.elements, named_append, named_map_ofText,
    named_map_ofLocation, named_map_ofTarget, reduceIte, String.reduceEq, List.nil_append,
    List.append_nil, mapM_ofText, hLocations, Option.map_some, getLast?_toList]
  simp [targetAndStatus?_ofTarget, Message.normalized]

/-! ## Contexts and the catalogue -/

/-- The element of a context. -/
def Element.ofContext (context : Context) : Element :=
  ⟨Tag.ofName "context" (optionalAttribute "encoding" context.encoding),
    Content.ofNodes [] (onLines 1 (textElement "name" context.name
        :: optionalElement "comment" context.comment ++ context.messages.map Message.node)
      ++ [lineBreak 0])⟩

theorem children_ofContext (context : Context) :
    (Element.ofContext context).children
      = [context.name].map (Element.ofText "name")
        ++ context.comment.toList.map (Element.ofText "comment")
        ++ context.messages.map Element.ofMessage := by
  have hMessages : (context.messages.map Message.node).filterMap Node.element?
      = context.messages.map Element.ofMessage := by
    rw [List.filterMap_map]
    exact congrFun List.filterMap_eq_map context.messages
  rw [Element.children, Element.ofContext, elements_onLines, List.filterMap_append,
    hMessages, ← filterMap_optionalElement]
  rfl

theorem named_map_ofMessage (label : String) (messages : List Message) :
    named label (messages.map Element.ofMessage)
      = if "message" = label then messages.map Element.ofMessage else [] :=
  named_map_ofName (by decide) (fun _ => ⟨_, rfl⟩) messages

theorem named_message_ofContext (context : Context) :
    named "message" (Element.ofContext context).children
      = context.messages.map Element.ofMessage := by
  simp (disch := decide) only [children_ofContext, named_append, named_map_ofText,
    named_map_ofMessage, reduceIte, String.reduceEq, List.nil_append]

theorem areWritable_context (context : Context) :
    AreWritable (optionalAttribute "encoding" context.encoding) := by
  refine areWritable_of_sublist ["encoding"] ?_ (by decide) (by decide)
  cases context.encoding <;> simp [optionalAttribute]

/-- A written context is read as its normal form. -/
theorem context?_ofContext (context : Context) :
    context? (Element.ofContext context) = some context.normalized := by
  have hEncoding : attribute? (Element.ofContext context).tag "encoding"
      = some context.encoding := by
    rw [Element.ofContext, attribute?_ofName (by decide) (areWritable_context context)]
    cases context.encoding <;> rfl
  unfold context?
  rw [hEncoding, children_ofContext]
  simp (disch := decide) only [lastText?, texts?, named_append, named_map_ofText,
    named_map_ofMessage, reduceIte, String.reduceEq, List.nil_append, List.append_nil, mapM_ofText,
    mapM_map_eq_some message?_ofMessage, Option.map_some, getLast?_toList]
  rfl

/-- The root element of a catalogue. -/
def Element.ofCatalog (catalog : Catalog) : Element :=
  ⟨Tag.ofName "TS" (optionalAttribute "version" catalog.version
      ++ (if catalog.language.isEmpty then [] else [("language", catalog.language)])
      ++ optionalAttribute "sourcelanguage" catalog.sourceLanguage),
    Content.ofNodes [] (onLines 0 (catalog.contexts.map Context.node) ++ [lineBreak 0])⟩

theorem children_ofCatalog (catalog : Catalog) :
    (Element.ofCatalog catalog).children = catalog.contexts.map Element.ofContext := by
  rw [Element.children, Element.ofCatalog, elements_onLines, List.filterMap_map]
  exact congrFun List.filterMap_eq_map catalog.contexts

theorem areWritable_catalog (catalog : Catalog) :
    AreWritable (optionalAttribute "version" catalog.version
      ++ (if catalog.language.isEmpty then [] else [("language", catalog.language)])
      ++ optionalAttribute "sourcelanguage" catalog.sourceLanguage) := by
  refine areWritable_of_sublist ["version", "language", "sourcelanguage"] ?_ (by decide) (by decide)
  cases catalog.version <;> cases catalog.sourceLanguage <;>
    cases catalog.language.isEmpty <;> simp [optionalAttribute]

/-- The attributes of a written root element are read as they are. -/
theorem attribute?_ofCatalog (catalog : Catalog) (key : String) :
    attribute? (Element.ofCatalog catalog).tag key
      = some ((optionalAttribute "version" catalog.version
        ++ (if catalog.language.isEmpty then [] else [("language", catalog.language)])
        ++ optionalAttribute "sourcelanguage" catalog.sourceLanguage).lookup key) := by
  rw [Element.ofCatalog, attribute?_ofName (by decide) (areWritable_catalog catalog)]

/-- A written catalogue is read as its normal form. -/
theorem catalog?_ofCatalog (catalog : Catalog) :
    catalog? (Element.ofCatalog catalog) = some catalog.normalized := by
  have hContexts : named "context" (catalog.contexts.map Element.ofContext)
      = catalog.contexts.map Element.ofContext := by
    rw [named_map_ofName (by decide) (fun _ => ⟨_, rfl⟩), if_pos rfl]
  have hVersion : attribute? (Element.ofCatalog catalog).tag "version" = some catalog.version := by
    rw [attribute?_ofCatalog]
    cases catalog.version <;> cases catalog.sourceLanguage <;>
      cases catalog.language.isEmpty <;> rfl
  have hSource : attribute? (Element.ofCatalog catalog).tag "sourcelanguage"
      = some catalog.sourceLanguage := by
    rw [attribute?_ofCatalog]
    cases catalog.version <;> cases catalog.sourceLanguage <;>
      cases catalog.language.isEmpty <;> rfl
  have hLanguage : (attribute? (Element.ofCatalog catalog).tag "language").map (·.getD "")
      = some catalog.language := by
    rw [attribute?_ofCatalog]
    cases hEmpty : catalog.language.isEmpty with
    | true =>
      -- an empty language is not written, and a missing one is read as the empty one
      have hNone : catalog.language = "" := String.isEmpty_iff.mp hEmpty
      rw [hNone]
      cases catalog.version <;> cases catalog.sourceLanguage <;> rfl
    | false => cases catalog.version <;> cases catalog.sourceLanguage <;> rfl
  obtain ⟨language, hTag, hValue⟩ := Option.map_eq_some_iff.mp hLanguage
  unfold catalog?
  rw [children_ofCatalog, hContexts, mapM_map_eq_some context?_ofContext, hTag, hSource, hVersion]
  simp [hValue, Catalog.normalized]

end Linguist.Ts
