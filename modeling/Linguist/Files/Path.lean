/-!
# Linguist — paths

A path is written as names between slashes. Read as components, empty names and
dots do not count, except for a dot in front; the last component names the file,
and its last dot parts the stem from the extension. A dot in front of a name is
part of the name.

* `Path.fileName?`, `Path.stem?` and `Path.extension?` take the last component apart.
* `Path.parent?` is the path of the directory around it.
-/

namespace Linguist.Path

/-- The names between the slashes, empty ones included. -/
def names (path : String) : List String :=
  (path.toList.splitOnP (· == '/')).map String.ofList

/-- Whether a path starts at the root. -/
def isAbsolute (path : String) : Bool :=
  path.toList.head? == some '/'

/-- The components of a path; the root is the component `/`. -/
def components (path : String) : List String :=
  let kept := (names path).filter fun name => name != "" && name != "."
  if isAbsolute path then "/" :: kept
  else if (names path).head? == some "." then "." :: kept
  else kept

/-- The path with these components. -/
def ofComponents : List String → String
  | "/" :: rest => "/" ++ String.intercalate "/" rest
  | components => String.intercalate "/" components

/-- The name of the file a path leads to, if its last component is a name. -/
def fileName? (path : String) : Option String :=
  match (components path).getLast? with
  | none | some "/" | some "." | some ".." => none
  | some name => some name

/-- A name parted at its last dot, unless that is its first character. -/
def partAtDot (name : String) : String × Option String :=
  let cs := name.toList.reverse
  let after := cs.takeWhile (· != '.')
  match cs.dropWhile (· != '.') with
  | [] | ['.'] => (name, none)
  | _ :: before => (String.ofList before.reverse, some (String.ofList after.reverse))

/-- The name of the file without its extension. -/
def stem? (path : String) : Option String :=
  (fileName? path).map fun name => (partAtDot name).1

/-- What stands behind the last dot of the file's name. -/
def extension? (path : String) : Option String :=
  (fileName? path).bind fun name => (partAtDot name).2

/-- The path of the directory around what a path leads to; the empty path and the root have
none. -/
def parent? (path : String) : Option String :=
  match components path with
  | [] | ["/"] => none
  | components => some (ofComponents components.dropLast)

end Linguist.Path
