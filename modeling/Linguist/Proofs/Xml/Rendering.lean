import Linguist.Proofs.Xml.Lexing

/-!
# Linguist — written nodes are read as content

The text of nodes in a row yields the events of their content. Texts that are
neighbours cannot be told apart in a document, and an empty text leaves nothing
there, so the content of nodes is collected with the text that is still open.

* `Content.ofNodes` — the content of nodes, behind some character data.
* `feed_render` / `feed_renderAll` — the text of nodes yields the events of their content.
-/

namespace Linguist.Xml

/-! ## Nodes as content -/

/-- Nodes whose names are words; the keys of a tag differ. -/
inductive Node.IsWritable : Node → Prop
  | text (characters : String) : IsWritable (.text characters)
  | empty {name : String} {attributes : List (String × String)} :
      IsWord name → AreWritable attributes → IsWritable (.empty name attributes)
  | element {name : String} {attributes : List (String × String)} {children : List Node} :
      IsWord name → AreWritable attributes → (∀ child ∈ children, IsWritable child) →
      IsWritable (.element name attributes children)

/-- Character data as content, if there is any. -/
def Content.ofRun (run : Bytes) : List Content :=
  if run.isEmpty then [] else [.text run]

/-- The content of nodes behind the character data `run`. -/
def Content.ofNodes (run : Bytes) : List Node → List Content
  | [] => Content.ofRun run
  | .text characters :: rest => Content.ofNodes (run ++ Utf8.encode (escape characters)) rest
  | .empty name attributes :: rest =>
    Content.ofRun run ++ .empty (Tag.ofName name attributes) :: Content.ofNodes [] rest
  | .element name attributes children :: rest =>
    Content.ofRun run
      ++ .element (Tag.ofName name attributes) (Content.ofNodes [] children)
      :: Content.ofNodes [] rest

/-! ## The events of written nodes -/

namespace Lexer

section Nodes

variable {opened : List Bytes} {run : Bytes} {name : String}
  {attributes : List (String × String)} {children : List Node}

/-- The bracket that opens a tag ends the character data in front of it. -/
theorem feed_bracket :
    feed ⟨opened, .text run.reverse⟩ [0x3C]
      = some (Content.eventsAll (Content.ofRun run), ⟨opened, .opened⟩) := by
  -- without character data the bracket ends nothing, and an empty text is no event
  cases hRun : run with
  | nil => rfl
  | cons b rest => simp [feed, Front.next, State.next, nest, Content.ofRun, Content.eventsAll,
      Content.events]

theorem encode_render_empty :
    Utf8.encode (Node.render (.empty name attributes))
      = [0x3C] ++ (Utf8.encode (renderTag name attributes) ++ [0x2F, 0x3E]) := by
  have hOpen : Utf8.encode "<" = [0x3C] := rfl
  have hClose : Utf8.encode "/>" = [0x2F, 0x3E] := rfl
  simp [Node.render, hOpen, hClose]

theorem encode_render_element :
    Utf8.encode (Node.render (.element name attributes children))
      = [0x3C] ++ (Utf8.encode (renderTag name attributes) ++ [0x3E])
        ++ (Utf8.encode (Node.renderAll children) ++ [0x3C])
        ++ (0x2F :: Utf8.encode name ++ [0x3E]) := by
  have hOpen : Utf8.encode "<" = [0x3C] := rfl
  have hClose : Utf8.encode ">" = [0x3E] := rfl
  have hEnd : Utf8.encode "</" = [0x3C, 0x2F] := rfl
  simp [Node.render, hOpen, hClose, hEnd]

/-- A written self-closed element yields its event. -/
theorem feed_render_empty (hName : IsWord name) (hWritable : AreWritable attributes) :
    feed ⟨opened, .text run.reverse⟩ (Utf8.encode (Node.render (.empty name attributes)))
      = some (Content.eventsAll (Content.ofRun run ++ [.empty (Tag.ofName name attributes)]),
          ⟨opened, .fresh⟩) := by
  rw [encode_render_empty, Content.eventsAll_append]
  exact feed_append feed_bracket (feed_emptyTag hName hWritable)

/-- A written element yields the events of its tags around those of its content. -/
theorem feed_render_element (hName : IsWord name) (hWritable : AreWritable attributes)
    (hChildren : feed ⟨Utf8.encode name :: opened, .fresh⟩
        (Utf8.encode (Node.renderAll children) ++ [0x3C])
      = some (Content.eventsAll (Content.ofNodes [] children),
          ⟨Utf8.encode name :: opened, .opened⟩)) :
    feed ⟨opened, .text run.reverse⟩ (Utf8.encode (Node.render (.element name attributes children)))
      = some (Content.eventsAll (Content.ofRun run
          ++ [.element (Tag.ofName name attributes) (Content.ofNodes [] children)]),
          ⟨opened, .fresh⟩) := by
  rw [encode_render_element, Content.eventsAll_append]
  rw [feed_append (feed_append (feed_append feed_bracket (feed_startTag hName hWritable)) hChildren)
    (feed_endTag hName)]
  simp [Content.eventsAll, Content.events, name_ofName hName]

end Nodes

/-- Written nodes yield the events of their content, up to the next tag. -/
theorem feed_renderAll (nodes : List Node) (hNodes : ∀ node ∈ nodes, node.IsWritable)
    (opened : List Bytes) (run : Bytes) :
    feed ⟨opened, .text run.reverse⟩ (Utf8.encode (Node.renderAll nodes) ++ [0x3C])
      = some (Content.eventsAll (Content.ofNodes run nodes), ⟨opened, .opened⟩) := by
  -- up to the next bracket: only there it is known that a text is over
  match nodes with
  | [] =>
    rw [Node.renderAll, Content.ofNodes]
    exact feed_bracket
  | .text characters :: rest =>
    have hRest := feed_renderAll rest (fun node h => hNodes node (List.mem_cons_of_mem _ h)) opened
      (run ++ Utf8.encode (escape characters))
    have hText : ∀ b ∈ Utf8.encode (escape characters), isMark b = false := fun b hb =>
      isMark_of_mem_encode_escape hb
    -- a text yields nothing yet: it is added to the one that is still open
    rw [List.reverse_append] at hRest
    rw [Node.renderAll, Node.render, Utf8.encode_append, Content.ofNodes, List.append_assoc]
    exact feed_append (feed_text hText) hRest
  | .empty name attributes :: rest =>
    have hOthers : ∀ node ∈ rest, node.IsWritable := fun node h =>
      hNodes node (List.mem_cons_of_mem _ h)
    have hRest := feed_renderAll rest hOthers opened []
    cases hNodes _ List.mem_cons_self with
    | empty hName hWritable =>
      rw [Node.renderAll, Utf8.encode_append, Content.ofNodes, List.append_assoc]
      rw [feed_append (feed_render_empty hName hWritable) hRest, ← Content.eventsAll_append]
      simp
  | .element name attributes children :: rest =>
    have hOthers : ∀ node ∈ rest, node.IsWritable := fun node h =>
      hNodes node (List.mem_cons_of_mem _ h)
    have hRest := feed_renderAll rest hOthers opened []
    cases hNodes _ List.mem_cons_self with
    | element hName hWritable hChildren =>
      -- inside the element its name is the innermost open one, and its end tag closes it
      have hInside := feed_renderAll children hChildren (Utf8.encode name :: opened) []
      rw [Node.renderAll, Utf8.encode_append, Content.ofNodes, List.append_assoc]
      rw [feed_append (feed_render_element hName hWritable hInside) hRest,
        ← Content.eventsAll_append]
      simp

/-- A written root element yields the events of its tree. -/
theorem feed_render {name : String} {attributes : List (String × String)} {children : List Node}
    (h : (Node.element name attributes children).IsWritable) (run : Bytes) :
    feed ⟨[], .text run.reverse⟩ (Utf8.encode (Node.render (.element name attributes children)))
      = some (Content.eventsAll (Content.ofNodes run [.element name attributes children]),
          ⟨[], .fresh⟩) := by
  cases h with
  | element hName hWritable hChildren =>
    rw [feed_render_element hName hWritable (feed_renderAll children hChildren _ [])]
    rw [Content.ofNodes, Content.ofNodes]
    rfl

end Lexer

end Linguist.Xml
