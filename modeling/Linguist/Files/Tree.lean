import Linguist.Files.Path
import Linguist.Text.Utf8

/-!
# Linguist — a tree of files

Files and directories as a value. An entry is addressed by the names on the way
to it from the working directory; paths are resolved name by name, as a system
does it, so that what is missing or is no directory on the way is told apart.

* `FileTree.resolve` finds the place a path leads to.
* `FileTree.create` writes a file, `FileTree.makeDirs` makes a directory and those around it.
-/

namespace Linguist

/-- Why a path cannot be used. -/
inductive IoFault where
  | notFound
  | exists
  | notDirectory
  | isDirectory
  | denied
  | nameTooLong
  | nulInName
  | notText
  deriving Repr, DecidableEq

/-- The wording of the system. -/
def IoFault.message : IoFault → String
  | .notFound => "No such file or directory (os error 2)"
  | .exists => "File exists (os error 17)"
  | .notDirectory => "Not a directory (os error 20)"
  | .isDirectory => "Is a directory (os error 21)"
  | .denied => "Permission denied (os error 13)"
  | .nameTooLong => "File name too long (os error 36)"
  | .nulInName => "file name contained an unexpected NUL byte"
  | .notText => "stream did not contain valid UTF-8"

/-- What a name stands for. -/
inductive Entry where
  | dir
  | file (content : Bytes)
  /-- neither a directory nor a regular file, such as a device or a pipe: it can be read, and nothing
  can be written to it -/
  | device (content : Bytes)
  deriving Repr, DecidableEq

/-- The way to an entry from the working directory. -/
abbrev Way := List String

/-- Files and directories below the working directory, which is a directory itself. -/
structure FileTree where
  entries : List (Way × Entry) := []
  deriving Repr

/-- Where a path leads to. -/
inductive Place where
  | taken (way : Way) (entry : Entry)
  /-- no directory although a slash follows its name -/
  | slashedFile (way : Way)
  /-- a name nothing has in a directory that exists; `slashed` if a slash follows it -/
  | free (way : Way) (slashed : Bool)
  deriving Repr, DecidableEq

namespace FileTree

/-- Whether a way is a directory without being an entry: the working directory, those above it
and the root. -/
def isGiven (way : Way) : Bool :=
  way == ["/"] || way.all (· == "..")

/-- What a way leads to. -/
def get? (tree : FileTree) (way : Way) : Option Entry :=
  if isGiven way then some .dir else (tree.entries.find? (·.1 == way)).map (·.2)

/-- The tree with an entry put in place. -/
def put (tree : FileTree) (way : Way) (entry : Entry) : FileTree :=
  ⟨(way, entry) :: tree.entries.filter (·.1 != way)⟩

/-- The way to the directory above. -/
def above (way : Way) : Way :=
  if way == ["/"] then way
  else
    match way.getLast? with
    | none | some ".." => way ++ [".."]
    | some _ => way.dropLast

/-- Follows names from a directory. -/
def follow (tree : FileTree) (way : Way) : List String → Except IoFault Place
  | [] => .ok (.taken way .dir)
  | name :: rest =>
    if name = "" ∨ name = "." then follow tree way rest
    else if name = ".." then follow tree (above way) rest
    else if 255 < name.utf8ByteSize then .error .nameTooLong
    else
      let next := way ++ [name]
      match tree.get? next with
      | some .dir => follow tree next rest
      | some entry =>
        if rest.isEmpty then .ok (.taken next entry)
        else if rest.all (·.isEmpty) then .ok (.slashedFile next)
        else .error .notDirectory
      | none => if rest.all (·.isEmpty) then .ok (.free next (!rest.isEmpty)) else .error .notFound

/-- The place a path leads to. -/
def resolve (tree : FileTree) (path : String) : Except IoFault Place :=
  if path.isEmpty then .error .notFound
  else if path.toList.contains '\x00' then .error .nulInName
  else tree.follow (if Path.isAbsolute path then ["/"] else []) (Path.names path)

/-- What stands at a path. -/
def find (tree : FileTree) (path : String) : Except IoFault Entry :=
  match tree.resolve path with
  | .ok (.taken _ entry) => .ok entry
  | .ok (.slashedFile _) => .error .notDirectory
  | .ok (.free ..) => .error .notFound
  | .error fault => .error fault

/-- Whether anything stands at a path. -/
def holds (tree : FileTree) (path : String) : Bool :=
  match tree.find path with
  | .ok _ => true
  | .error _ => false

/-- Whether a regular file stands at a path. -/
def isFile (tree : FileTree) (path : String) : Bool :=
  match tree.find path with
  | .ok (.file _) => true
  | _ => false

/-- Whether a directory stands at a path. -/
def isDir (tree : FileTree) (path : String) : Bool :=
  match tree.find path with
  | .ok .dir => true
  | _ => false

/-- The bytes of a file, or of a device. -/
def read (tree : FileTree) (path : String) : Except IoFault Bytes :=
  match tree.find path with
  | .ok (.file content) | .ok (.device content) => .ok content
  | .ok .dir => .error .isDirectory
  | .error fault => .error fault

/-- Writes a file, a new one or in place of an old one. -/
def create (tree : FileTree) (path : String) (content : Bytes) : Except IoFault FileTree :=
  match tree.resolve path with
  | .ok (.taken _ .dir) | .ok (.slashedFile _) | .ok (.free _ true) => .error .isDirectory
  | .ok (.taken _ (.device _)) => .error .denied
  | .ok (.taken way (.file _)) | .ok (.free way false) => .ok (tree.put way (.file content))
  | .error fault => .error fault

/-- Makes a directory in one that exists. -/
def makeDir (tree : FileTree) (path : String) : Except IoFault FileTree :=
  match tree.resolve path with
  | .ok (.taken ..) | .ok (.slashedFile _) => .error .exists
  | .ok (.free way _) => .ok (tree.put way .dir)
  | .error fault => .error fault

/-- Makes a directory unless there is one. -/
def ensureDir (tree : FileTree) (path : String) : FileTree × Except IoFault Unit :=
  match tree.makeDir path with
  | .ok tree => (tree, .ok ())
  | .error fault => if tree.isDir path then (tree, .ok ()) else (tree, .error fault)

/-- Makes the directory of components given from the last to the first, and those around it
where they are missing. -/
def makeDirsFrom (tree : FileTree) : List String → FileTree × Except IoFault Unit
  | [] => (tree, .ok ())
  | name :: outer =>
    let path := Path.ofComponents (name :: outer).reverse
    match tree.makeDir path with
    | .error .notFound =>
      match tree.makeDirsFrom outer with
      | (tree, .ok ()) => tree.ensureDir path
      | failed => failed
    | _ => tree.ensureDir path

/-- Makes a directory and those around it where they are missing. -/
def makeDirs (tree : FileTree) (path : String) : FileTree × Except IoFault Unit :=
  tree.makeDirsFrom (Path.components path).reverse

end FileTree

end Linguist
