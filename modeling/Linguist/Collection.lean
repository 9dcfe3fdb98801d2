import Linguist.Catalog.File
import Linguist.Phrasebook

/-!
# Linguist — collections of catalogues

Catalogues in the order in which they were read. One of them is asked for by its
language: the one spelled the same way if there is one, else the first of the
same language. A collection is kept in a cache file as a JSON list.

* `Collection.ofLanguage?` finds a catalogue, `Collection.phrasebook` looks into it.
* `Collection.read` and `Collection.write` go by the extension of a path.
* `Collection.save` and `Collection.load` keep a whole collection.
-/

namespace Linguist

/-- Catalogues in the order in which they were read. -/
structure Collection where
  catalogs : List Catalog := []
  deriving Repr, DecidableEq

namespace Collection

/-- A collection with one more catalogue. -/
def add (collection : Collection) (catalog : Catalog) : Collection :=
  ⟨collection.catalogs ++ [catalog]⟩

/-- The catalogue for a language. -/
def ofLanguage? (collection : Collection) (language : String) : Option Catalog :=
  (collection.catalogs.find? (·.language == language)).or
    (collection.catalogs.find? (·.hasLanguage language))

/-- The phrasebook for a language. -/
def phrasebook (collection : Collection) (language : String) : Logged Error Phrasebook :=
  match collection.ofLanguage? language with
  | none => .fail (.noCatalogFor language)
  | some catalog =>
    match Phrasebook.ofCatalog catalog with
    | .error key => .fail (.duplicateKey key)
    | .ok book => do
      Logged.note book.builtNotice
      return book

/-- The format of a path with a supported extension. -/
def supportedFormat (path : String) : Except Error Format :=
  match Format.ofPath? path with
  | some format => .ok format
  | none => .error (.unsupportedExtension (Path.extension? path))

/-- Reads a catalogue into a collection, in the format its extension tells. -/
def read (collection : Collection) (tree : FileTree) (path : String) (mode : ReadMode) :
    Logged Error Collection := do
  let format ← supportedFormat path
  let catalog ← tree.readCatalog path format mode
  return collection.add catalog

/-- Reads a catalogue of a format into a collection. -/
def readAs (collection : Collection) (tree : FileTree) (path : String) (format : Format) :
    Logged Error Collection := do
  let catalog ← tree.readCatalog path format {}
  return collection.add catalog

/-- Writes the only catalogue of a collection. -/
def write (collection : Collection) (path : String) : Action Error Unit := do
  match collection.catalogs with
  | [] => Action.fail .nothingToWrite
  | [catalog] =>
    let format ← supportedFormat path
    writeCatalog catalog path format
  | catalogs => Action.fail (.tooManyToWrite catalogs.length)

/-- A collection that was saved. -/
def saveNotice (collection : Collection) (path : String) : Notice where
  level := .debug
  message := "cached catalogues"
  fields := [("path", path), ("catalogs", toString collection.catalogs.length)]

/-- Writes a cache file, in a new directory if there is none. -/
def save (collection : Collection) (path : String) : Action Error Unit := do
  match Path.parent? path with
  | none => pure ()
  | some parent => (Action.makeDirs parent).mapError .io
  let content := Utf8.encode (Catalog.listToJson collection.catalogs)
  (Action.create path content).mapError .io
  Action.note (collection.saveNotice path)

/-- The collection of a cache file. -/
def load (tree : FileTree) (path : String) : Except Error Collection :=
  match tree.read path with
  | .ok content => ((Catalog.listOfJson content).mapError .json).map fun catalogs => ⟨catalogs⟩
  | .error .isDirectory => .error (.unreadable .json .isDirectory)
  | .error fault => .error (.io fault)

end Collection

end Linguist
