import Linguist.Catalog.Json
import Linguist.Error
import Linguist.Files.Action
import Linguist.Ts.Reader
import Linguist.Ts.Writer

/-!
# Linguist — catalogue files

A catalogue is read from a file in a format, then settled: if it names no
language, a hint or the name of the file does, and keys that occur again are
noticed. A strict reading fails instead where no language is found or a key
occurs again.

* `FileTree.readCatalog` reads a catalogue, `writeCatalog` writes one.
* `convert` reads one file and writes another.
-/

namespace Linguist

/-- How a catalogue is to be read. -/
structure ReadMode where
  /-- the language of a catalogue that names none -/
  hint : Option String := none
  strict : Bool := false
  deriving Repr, DecidableEq

/-! ## Reading -/

/-- A catalogue from the content of a file. -/
def Format.parse (format : Format) (content : Bytes) : Logged Error Catalog :=
  match format with
  | .ts => (Ts.read content).mapError .ts
  | .json => .ofExcept ((Catalog.ofJson content).mapError .json)

/-- The catalogue of a file as it stands there. -/
def FileTree.parseCatalog (tree : FileTree) (path : String) (format : Format) :
    Logged Error Catalog :=
  match tree.read path with
  | .ok content => format.parse content
  | .error .isDirectory => .fail (.unreadable format .isDirectory)
  | .error fault => .fail (.io fault)

/-- A hint that is not the language the file declares. -/
def hintNotice (path declared hint : String) : Notice where
  level := .warn
  message := "language hint differs from the declared language, keeping the declared one"
  fields := [("path", path), ("declared", declared), ("hint", hint)]

/-- A catalogue with the language of the hint or of the file's name if it has none. -/
def ReadMode.settleLanguage (mode : ReadMode) (path : String) (catalog : Catalog) :
    Logged Error Catalog :=
  if catalog.language.isEmpty then
    match mode.hint <|> languageOfPath? path with
    | some language => pure { catalog with language }
    | none => if mode.strict then .fail (.noLanguage path) else pure catalog
  else
    match mode.hint with
    | none => pure catalog
    | some hint =>
      if catalog.hasLanguage hint then pure catalog
      else do
        Logged.note (hintNotice path catalog.language hint)
        return catalog

/-- A key that occurs again. -/
def duplicateNotice (path : String) (key : Key) : Notice where
  level := .warn
  message := "duplicate message " ++ key.text
  fields := [("path", path)]

/-- Notices the keys that occur again, or fails for the first of them. -/
def ReadMode.settleKeys (mode : ReadMode) (path : String) (catalog : Catalog) :
    Logged Error Unit :=
  match catalog.duplicateKeys with
  | [] => pure ()
  | key :: keys =>
    if mode.strict then .fail (.duplicateKey key)
    else .noteAll ((key :: keys).map (duplicateNotice path))

/-- A catalogue that was read. -/
def loadNotice (path : String) (format : Format) (catalog : Catalog) : Notice where
  level := .debug
  message := "loaded catalogue"
  fields := [
    ("path", path),
    ("format", format.name),
    ("language", catalog.language),
    ("contexts", toString catalog.contexts.length),
    ("messages", toString catalog.messageCount)]

/-- Reads a catalogue. -/
def FileTree.readCatalog (tree : FileTree) (path : String) (format : Format)
    (mode : ReadMode) : Logged Error Catalog := do
  let catalog ← tree.parseCatalog path format
  let catalog ← mode.settleLanguage path catalog
  mode.settleKeys path catalog
  Logged.note (loadNotice path format catalog)
  return catalog

/-! ## Writing -/

/-- The content of a catalogue's file. -/
def Format.content (format : Format) (catalog : Catalog) : Bytes :=
  match format with
  | .ts => Utf8.encode (Ts.write catalog)
  | .json => Utf8.encode catalog.toJson

/-- A catalogue that was written. -/
def writeNotice (path : String) (format : Format) : Notice where
  level := .debug
  message := "wrote catalogue"
  fields := [("path", path), ("format", format.name)]

/-- Writes a catalogue, in a new directory if there is none. -/
def writeCatalog (catalog : Catalog) (path : String) (format : Format) : Action Error Unit := do
  match Path.parent? path with
  | none | some "" => pure ()
  | some parent => (Action.makeDirs parent).mapError .io
  (Action.create path (format.content catalog)).mapError .io
  Action.note (writeNotice path format)

/-! ## Converting -/

/-- Reads a catalogue and writes it to another file. -/
def convert (input : String) (source : Format) (output : String) (target : Format) :
    Action Error Unit := do
  let catalog ← Action.reading fun tree => tree.readCatalog input source {}
  writeCatalog catalog output target

/-- The format a path tells. -/
def formatOf (role path : String) : Except Error Format :=
  match Format.ofPath? path with
  | some format => .ok format
  | none => .error (.untoldFormat role (Path.extension? path))

/-- Converts between the formats that the paths tell. -/
def convertByName (input output : String) : Action Error Unit := do
  let source ← formatOf "input" input
  let target ← formatOf "output" output
  convert input source output target

end Linguist
