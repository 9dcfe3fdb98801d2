import Linguist.Xml.Reference

/-!
# Linguist — content to be written

Elements with attributes and content, as a tree, and the text they are written
as. Attribute values and character data are escaped alike.
-/

namespace Linguist.Xml

/-- A piece of content. -/
inductive Node where
  | text (characters : String)
  | empty (name : String) (attributes : List (String × String))
  | element (name : String) (attributes : List (String × String)) (children : List Node)
  deriving Repr

/-- One attribute, with the blank in front of it. -/
def renderAttribute (pair : String × String) : String :=
  " " ++ pair.1 ++ "=\"" ++ escape pair.2 ++ "\""

/-- What stands between the angle brackets of a start tag. -/
def renderTag (name : String) (attributes : List (String × String)) : String :=
  name ++ String.join (attributes.map renderAttribute)

mutual

/-- The text of a node. -/
def Node.render : Node → String
  | .text characters => escape characters
  | .empty name attributes => "<" ++ renderTag name attributes ++ "/>"
  | .element name attributes children =>
    "<" ++ renderTag name attributes ++ ">" ++ Node.renderAll children ++ "</" ++ name ++ ">"

/-- The text of nodes in a row. -/
def Node.renderAll : List Node → String
  | [] => ""
  | node :: rest => node.render ++ Node.renderAll rest

end

/-- An attribute that may be absent. -/
def optionalAttribute (name : String) (value : Option String) : List (String × String) :=
  (value.map fun v => (name, v)).toList

end Linguist.Xml
