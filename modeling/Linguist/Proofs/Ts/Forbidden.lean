import Linguist.Proofs.Text.Numeral
import Linguist.Proofs.Ts.Slices

/-!
# Linguist — characters that cannot stand in a document

A text is cut at the characters that XML forbids, and each of them is written as
an element with its number. There is no such element for the value of an
attribute, and what is escaped there are only the five characters that mean
something in markup. So the texts of a catalogue may hold any characters, and
what a document holds of forbidden ones comes from the values of its attributes.

* `Catalog.attributeValues` — what is written as the value of an attribute.
* `forbidden_escape` — escaping neither brings in forbidden characters nor removes them.
* `forbidden_textNodes` — a written text holds none.
* `Ts.forbidden_write` — a document holds those of its attribute values and no others.
-/

namespace Linguist

/-! ## Values of attributes -/

/-- What the element of a location has as the values of its attributes. -/
def Location.attributeValues (location : Location) : List String :=
  location.filename.toList ++ location.line.toList

/-- The values of attributes in a message, in the order of the file. -/
def Message.attributeValues (message : Message) : List String :=
  message.id.toList ++ message.locations.flatMap Location.attributeValues

/-- The values of attributes in a context, in the order of the file. -/
def Context.attributeValues (context : Context) : List String :=
  context.encoding.toList ++ context.messages.flatMap Message.attributeValues

/-- The values of attributes in a catalogue, in the order of the file; those that are the same in
every file are left out. -/
def Catalog.attributeValues (catalog : Catalog) : List String :=
  catalog.version.toList ++ catalog.language :: catalog.sourceLanguage.toList
    ++ catalog.contexts.flatMap Context.attributeValues

namespace Ts

open Xml

/-- The characters of a text that cannot stand in a document. -/
def forbidden (s : String) : List Char :=
  s.toList.filter isForbidden

theorem forbidden_eq_nil_iff {s : String} :
    forbidden s = [] ↔ ∀ c ∈ s.toList, isForbidden c = false := by
  simp [forbidden, List.filter_eq_nil_iff]

@[simp] theorem forbidden_empty : forbidden "" = [] := rfl

@[simp] theorem forbidden_append (s t : String) :
    forbidden (s ++ t) = forbidden s ++ forbidden t := by
  rw [forbidden, String.toList_append, List.filter_append]
  rfl

theorem forbidden_join (texts : List String) :
    forbidden (String.join texts) = texts.flatMap forbidden := by
  rw [forbidden, String.toList_join, List.filter_flatMap]
  rfl

/-! ## Markup -/

theorem filter_escapeChar (c : Char) :
    (escapeChar c).filter isForbidden = [c].filter isForbidden := by
  unfold escapeChar
  split <;> rfl

/-- Escaping neither brings in forbidden characters nor removes them. -/
@[simp] theorem forbidden_escape (s : String) : forbidden (escape s) = forbidden s := by
  rw [forbidden, escape, String.toList_ofList, escapeChars, List.filter_flatMap]
  simp only [filter_escapeChar]
  rw [← List.filter_flatMap, List.flatMap_singleton']
  rfl

@[simp] theorem forbidden_renderTag (name : String) (attributes : List (String × String)) :
    forbidden (renderTag name attributes)
      = forbidden name ++ attributes.flatMap fun pair => forbidden pair.1 ++ forbidden pair.2 := by
  have hBlank : forbidden " " = [] := rfl
  have hOpen : forbidden "=\"" = [] := rfl
  have hClose : forbidden "\"" = [] := rfl
  rw [renderTag, forbidden_append, forbidden_join, List.flatMap_map]
  simp [renderAttribute, hBlank, hOpen, hClose]

@[simp] theorem forbidden_render_text (characters : String) :
    forbidden (Node.render (.text characters)) = forbidden characters := by
  rw [Node.render, forbidden_escape]

@[simp] theorem forbidden_render_empty (name : String) (attributes : List (String × String)) :
    forbidden (Node.render (.empty name attributes)) = forbidden (renderTag name attributes) := by
  have hOpen : forbidden "<" = [] := rfl
  have hClose : forbidden "/>" = [] := rfl
  simp [Node.render, hOpen, hClose]

@[simp] theorem forbidden_render_element (name : String) (attributes : List (String × String))
    (children : List Node) :
    forbidden (Node.render (.element name attributes children))
      = forbidden (renderTag name attributes) ++ forbidden (Node.renderAll children)
        ++ forbidden name := by
  have hOpen : forbidden "<" = [] := rfl
  have hClose : forbidden ">" = [] := rfl
  have hEnd : forbidden "</" = [] := rfl
  simp [Node.render, hOpen, hClose, hEnd]

@[simp] theorem forbidden_renderAll (nodes : List Node) :
    forbidden (Node.renderAll nodes) = nodes.flatMap fun node => forbidden node.render := by
  induction nodes with
  | nil => rfl
  | cons node nodes ih => rw [Node.renderAll, forbidden_append, ih, List.flatMap_cons]

/-- An attribute brings in what its value holds. -/
theorem flatMap_optionalAttribute {name : String} (hName : forbidden name = [])
    (value : Option String) :
    (optionalAttribute name value).flatMap (fun pair => forbidden pair.1 ++ forbidden pair.2)
      = value.toList.flatMap forbidden := by
  cases value <;> simp [optionalAttribute, hName]

/-! ## Texts -/

theorem isForbidden_digitChar {d : Nat} (h : d < 16) : isForbidden (Nat.digitChar d) = false := by
  revert h
  revert d
  decide

/-- The number of a character can stand in a document, whatever the character. -/
theorem forbidden_byteValue (c : Char) : forbidden (byteValue c) = [] := by
  have hMark : forbidden "x" = [] := rfl
  have hDigits : forbidden (Numeral.hex c.toNat) = [] := by
    rw [forbidden_eq_nil_iff]
    intro digit hDigit
    obtain ⟨d, hLow, rfl⟩ := Numeral.exists_digitChar_of_mem_hex hDigit
    exact isForbidden_digitChar hLow
  rw [byteValue, forbidden_append, hMark, hDigits]
  rfl

/-- A written text holds no forbidden characters, whatever the text. -/
@[simp] theorem forbidden_textNodes (s : String) :
    ((textNodes s).flatMap fun node => forbidden node.render) = [] := by
  have hByte : forbidden "byte" = [] := rfl
  have hValue : forbidden "value" = [] := rfl
  rw [textNodes_eq, List.flatMap_map, List.flatMap_eq_nil_iff]
  intro piece hPiece
  cases piece with
  | run characters =>
    rw [Piece.node, forbidden_render_text, forbidden_eq_nil_iff, String.toList_ofList]
    exact isForbidden_of_run_mem_pieces hPiece
  | forbidden c => simp [Piece.node, hByte, hValue, forbidden_byteValue]

/-! ## Layout -/

theorem forbidden_lineBreak (level : Nat) : forbidden (lineBreak level).render = [] := by
  have hBreak : isForbidden '\n' = false := rfl
  have hBlank : isForbidden ' ' = false := rfl
  rw [lineBreak, forbidden_render_text, forbidden_eq_nil_iff, String.toList_ofList]
  simp [hBreak, hBlank]

/-- Line breaks bring in nothing. -/
@[simp] theorem forbidden_onLines (level below : Nat) (nodes : List Node) :
    ((onLines level nodes ++ [lineBreak below]).flatMap fun node => forbidden node.render)
      = nodes.flatMap fun node => forbidden node.render := by
  simp [onLines, List.flatMap_assoc, forbidden_lineBreak]

theorem forbidden_textElement {name : String} (hName : forbidden name = []) (text : String) :
    forbidden (textElement name text).render = [] := by
  simp [textElement, hName]

theorem forbidden_optionalElement {name : String} (hName : forbidden name = [])
    (text : Option String) :
    ((optionalElement name text).flatMap fun node => forbidden node.render) = [] := by
  cases text <;> simp [optionalElement, forbidden_textElement hName]

/-! ## The levels of a document -/

theorem forbidden_location (location : Location) :
    forbidden location.node.render = location.attributeValues.flatMap forbidden := by
  have hName : forbidden "location" = [] := rfl
  rw [Location.node, forbidden_render_empty, forbidden_renderTag, hName, List.flatMap_append]
  simp (disch := decide) only [flatMap_optionalAttribute, Location.attributeValues,
    List.flatMap_append, List.nil_append]

theorem forbidden_target (target : Target) :
    (target.nodes.flatMap fun node => forbidden node.render) = [] := by
  rcases target with text | (_ | ⟨form, forms⟩)
  · exact forbidden_textNodes text
  · rfl
  · refine (forbidden_onLines 3 2 _).trans ?_
    rw [List.flatMap_map, List.flatMap_eq_nil_iff]
    exact fun text _ => forbidden_textElement rfl text

/-- The element of a target has no attribute but the status. -/
theorem forbidden_translation (message : Message) :
    forbidden (Node.render (.element "translation"
      (optionalAttribute "type" message.status.attribute?) message.target.nodes)) = [] := by
  have hName : forbidden "translation" = [] := rfl
  have hStatus : message.status.attribute?.toList.flatMap forbidden = [] := by
    cases message.status <;> rfl
  rw [forbidden_render_element, forbidden_renderTag, forbidden_renderAll, forbidden_target,
    flatMap_optionalAttribute rfl, hStatus, hName]
  rfl

/-- Of the elements of a message, only the locations bring in anything. -/
theorem forbidden_messageNodes (message : Message) :
    (message.nodes.flatMap fun node => forbidden node.render)
      = (message.locations.flatMap Location.attributeValues).flatMap forbidden := by
  simp (disch := decide) only [Message.nodes, List.flatMap_append, List.flatMap_cons,
    List.flatMap_nil, List.flatMap_map, List.flatMap_assoc, List.append_nil, forbidden_location,
    forbidden_translation, forbidden_textElement, forbidden_optionalElement]

theorem forbidden_message (message : Message) :
    forbidden message.node.render = message.attributeValues.flatMap forbidden := by
  have hName : forbidden "message" = [] := rfl
  have hNumerus : ((if message.numerus then [("numerus", "yes")] else []).flatMap
      fun pair => forbidden pair.1 ++ forbidden pair.2) = [] := by
    cases message.numerus <;> rfl
  rw [Message.node, forbidden_render_element, forbidden_renderTag, forbidden_renderAll,
    forbidden_onLines, forbidden_messageNodes, List.flatMap_append, hNumerus,
    flatMap_optionalAttribute rfl, hName]
  simp only [Message.attributeValues, List.flatMap_append, List.nil_append, List.append_nil]

theorem forbidden_context (context : Context) :
    forbidden context.node.render = context.attributeValues.flatMap forbidden := by
  have hName : forbidden "context" = [] := rfl
  rw [Context.node, forbidden_render_element, forbidden_renderTag, forbidden_renderAll,
    forbidden_onLines, flatMap_optionalAttribute rfl, hName]
  simp (disch := decide) only [Context.attributeValues, List.flatMap_append, List.flatMap_cons,
    List.flatMap_map, List.flatMap_assoc, List.nil_append, List.append_nil, List.cons_append,
    forbidden_textElement, forbidden_optionalElement, forbidden_message]

/-- An empty language is not written, and there is nothing in it. -/
theorem flatMap_languageAttribute (language : String) :
    ((if language.isEmpty then [] else [("language", language)]).flatMap
      fun pair => forbidden pair.1 ++ forbidden pair.2) = forbidden language := by
  have hKey : forbidden "language" = [] := rfl
  by_cases hEmpty : language = ""
  · simp [hEmpty]
  · simp [hEmpty, hKey]

theorem forbidden_catalog (catalog : Catalog) :
    forbidden catalog.node.render = catalog.attributeValues.flatMap forbidden := by
  have hName : forbidden "TS" = [] := rfl
  rw [Catalog.node, forbidden_render_element, forbidden_renderTag, forbidden_renderAll,
    forbidden_onLines, List.flatMap_append, List.flatMap_append, flatMap_languageAttribute, hName]
  simp (disch := decide) only [Catalog.attributeValues, List.flatMap_append, List.flatMap_cons,
    List.flatMap_map, List.flatMap_assoc, List.nil_append, List.append_nil, List.append_assoc,
    flatMap_optionalAttribute, forbidden_context]

theorem forbidden_write (catalog : Catalog) :
    forbidden (write catalog) = catalog.attributeValues.flatMap forbidden := by
  have hProlog : forbidden prolog = [] := rfl
  have hEnd : forbidden "\n" = [] := rfl
  rw [write, forbidden_append, forbidden_append, hProlog, hEnd, forbidden_catalog,
    List.nil_append, List.append_nil]

/-- **Forbidden characters come from attribute values.** A document holds those of its attribute
values and no others, in the order of the file. It is free of them just if these values are,
whatever its texts hold. -/
theorem forbidden_only_in_attributes (catalog : Catalog) :
    forbidden (write catalog) = catalog.attributeValues.flatMap forbidden ∧
    ((∀ c ∈ (write catalog).toList, isForbidden c = false) ↔
      ∀ value ∈ catalog.attributeValues, ∀ c ∈ value.toList, isForbidden c = false) := by
  refine ⟨forbidden_write catalog, ?_⟩
  rw [← forbidden_eq_nil_iff, forbidden_write, List.flatMap_eq_nil_iff]
  simp only [forbidden_eq_nil_iff]

/-- The identifier of a message is written as it is. -/
theorem forbidden_written_in_id :
    let catalog : Catalog := {
      language := "hu"
      contexts := [{
        name := "C"
        messages := [{
          id := some "a\x01b"
          source := "Open"
          target := .singular "x"
          status := .finished }] }] }
    '\x01' ∈ (write catalog).toList ∧ isForbidden '\x01' = true := by
  intro catalog
  have hWritten : '\x01' ∈ forbidden (write catalog) := by
    rw [forbidden_write]
    decide
  exact List.mem_filter.mp hWritten

end Ts

end Linguist
