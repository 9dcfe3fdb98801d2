import Linguist.Catalog.Basic
import Linguist.Files.Tree
import Linguist.Notice
import Linguist.Text.Quoted
import Linguist.Toml

/-!
# Linguist — settings

What the command takes for granted stands in a file of settings: one that is
named, or the usual one if there is such a file. Every key may be left out, none
may stand twice and no other may stand there.

* `Settings.ofToml?` reads settings from a document, `Settings.load` from a file.
-/

namespace Linguist

/-- What the command takes for granted. -/
structure Settings where
  /-- catalogues are read strictly -/
  strict : Bool := false
  /-- the language of catalogues that name none -/
  language : Option String := none
  /-- texts are shown in full -/
  full : Bool := false
  deriving Repr, DecidableEq

/-- Why there are no settings. -/
inductive SettingsFault where
  | missing (path : String)
  | unreadable (path : String) (fault : IoFault)
  | invalid
  deriving Repr, DecidableEq

/-- The wording of a fault. -/
def SettingsFault.message : SettingsFault → String
  | .missing path => "Config file does not exist: " ++ path
  | .unreadable path fault => "Cannot read config file " ++ path ++ ": " ++ fault.message
  | .invalid => "Invalid configuration: "

namespace Settings

/-- Settings with one more entry. -/
def set? (settings : Settings) : String × Toml.Value → Option Settings
  | ("strict", .bool strict) => some { settings with strict }
  | ("language", .text language) => some { settings with language := some language }
  | ("full", .bool full) => some { settings with full }
  | _ => none

/-- The settings of a document. -/
def ofToml? (document : String) : Option Settings := do
  let entries ← Toml.entries? document
  if (repeats [] (entries.map (·.1))).isEmpty then entries.foldlM set? {} else none

/-- The file whose settings count if no other is named. -/
def usualPath : String :=
  "tscodec.toml"

/-- Settings on one line. -/
def summary (settings : Settings) : String :=
  "Config \x7b strict: " ++ toString settings.strict
    ++ ", language: " ++ Quoted.optional Quoted.text settings.language
    ++ ", full: " ++ toString settings.full ++ " \x7d"

/-- Settings that were read. -/
def loadNotice (path : String) (settings : Settings) : Notice where
  level := .debug
  message := "loaded configuration"
  fields := [("path", path), ("config", settings.summary)]

/-- The settings of a file. -/
def read (tree : FileTree) (path : String) : Logged SettingsFault Settings :=
  match tree.read path with
  | .error fault => .fail (.unreadable path fault)
  | .ok content =>
    match Utf8.decode content with
    | .error _ => .fail (.unreadable path .notText)
    | .ok document =>
      match ofToml? document with
      | none => .fail .invalid
      | some settings => do
        Logged.note (loadNotice path settings)
        return settings

/-- The settings of the named file, or else of the usual one if it is there. -/
def load (tree : FileTree) (named : Option String) : Logged SettingsFault Settings :=
  match named with
  | some path => if tree.isFile path then read tree path else .fail (.missing path)
  | none => if tree.isFile usualPath then read tree usualPath else pure {}

/-- The language to take for granted: the one given counts before the one set. -/
def hint (settings : Settings) (given : Option String) : Option String :=
  given.or settings.language

end Settings

end Linguist
