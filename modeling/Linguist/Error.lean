import Linguist.FileName
import Linguist.Files.Tree
import Linguist.Issue
import Linguist.Json.Fault
import Linguist.Text.Quoted
import Linguist.Ts.Fault

/-!
# Linguist — errors

Whatever keeps a catalogue from being read, written, checked or looked up. An
error holds its cause; the wording starts with the part of the work it belongs
to.
-/

namespace Linguist

/-- Why something could not be done. -/
inductive Error where
  /-- a name that is no format's -/
  | unknownFormat (name : String)
  /-- a path whose extension tells no format, where a catalogue is converted from or to -/
  | untoldFormat (role : String) (extension : Option String)
  /-- a path whose extension tells no format -/
  | unsupportedExtension (extension : Option String)
  | io (fault : IoFault)
  /-- a file that could be opened and not be read -/
  | unreadable (format : Format) (fault : IoFault)
  | ts (fault : Ts.Fault)
  | json (refusal : Json.Refusal)
  /-- a strict reading found no language -/
  | noLanguage (path : String)
  | nothingToWrite
  | tooManyToWrite (count : Nat)
  | noCatalogFor (language : String)
  | duplicateKey (key : Key)
  | issues (found : List Issue)
  | pluralReports (found : List PluralReport)
  deriving Repr, DecidableEq

namespace Error

/-- Texts in lines. -/
def lines (texts : List String) : String :=
  String.intercalate "\n" texts

/-- The wording of what is wrong with a `.ts` document. -/
def tsMessage : Ts.Fault → String
  | .xml fault => "XML parse error: " ++ fault.message
  | .tagAttribute fault => "XML attribute error: " ++ fault.message
  | .missingRoot => "invalid resource: missing <TS> root element"
  | .malformed what position =>
    "invalid resource: " ++ what.message ++ s!" (at byte {position})"

/-- The wording of an error. -/
def message : Error → String
  | .unknownFormat name => "unknown format `" ++ name ++ "`"
  | .untoldFormat role extension =>
    "unknown format `Cannot infer " ++ role ++ " format from extension: "
      ++ Quoted.optional Quoted.pathPart extension ++ "`"
  | .unsupportedExtension extension =>
    "unsupported format: Unsupported file extension: "
      ++ Quoted.optional Quoted.pathPart extension ++ "."
  | .io fault => "I/O error: " ++ fault.message
  | .unreadable .ts fault => "XML parse error: I/O error: " ++ fault.message
  | .unreadable .json fault => "JSON error: " ++ fault.message
  | .ts fault => tsMessage fault
  | .json refusal => "JSON error: " ++ refusal.message
  | .noLanguage path => "invalid resource: " ++ path ++ " does not declare a language."
  | .nothingToWrite => "invalid resource: No catalogue loaded to write."
  | .tooManyToWrite count =>
    s!"invalid resource: Cannot write {count} catalogues to a single file."
  | .noCatalogFor language =>
    "invalid resource: No catalogue for language '" ++ language ++ "'."
  | .duplicateKey key => "duplicate message " ++ key.text
  | .issues found => "validation error: " ++ lines (found.map Issue.text)
  | .pluralReports found =>
    "validation error: Plural validation failed:\n" ++ lines (found.map PluralReport.text)

end Error

/-! ## Checks that fail -/

/-- A catalogue without any issue. -/
def Catalog.validate (catalog : Catalog) : Except Error Unit :=
  match catalog.issues with
  | [] => .ok ()
  | found => .error (.issues found)

/-- A catalogue in which the numbers of plural forms fit. -/
def Catalog.validatePlurals (catalog : Catalog) : Except Error Unit :=
  match catalog.pluralReports with
  | [] => .ok ()
  | found => .error (.pluralReports found)

/-- The format of a name. -/
def Format.ofName (name : String) : Except Error Format :=
  match Format.ofName? name with
  | some format => .ok format
  | none => .error (.unknownFormat (Format.nameKey name))

end Linguist
