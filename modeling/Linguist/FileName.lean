import Linguist.Files.Path
import Linguist.Language
import Linguist.Text.Blank

/-!
# Linguist — formats and what a file's name tells

A catalogue is kept as a `.ts` document or as JSON. The extension of a file
tells which, and catalogues are usually named for their language: a domain, an
underscore, then the language with its region.

* `Format.ofName?` reads the name of a format, `Format.ofPath?` an extension.
* `languageOfPath?` finds the language in the name of a file.
-/

namespace Linguist

/-- How a catalogue is kept. -/
inductive Format where
  | ts
  | json
  deriving Repr, DecidableEq

namespace Format

/-- The name of a format, which is its usual extension too. -/
def name : Format → String
  | .ts => "ts"
  | .json => "json"

/-- The usual extension. -/
def extension (format : Format) : String :=
  format.name

/-- A name as it is compared: without blanks around it, in small letters. -/
def nameKey (s : String) : String :=
  lowerAscii (trimmed s)

/-- The format of a name. -/
def ofName? (s : String) : Option Format :=
  match nameKey s with
  | "ts" | "linguist" | "xml" => some .ts
  | "json" => some .json
  | _ => none

/-- The format that an extension tells. -/
def ofPath? (path : String) : Option Format :=
  match (Path.extension? path).map lowerAscii with
  | some "ts" => some .ts
  | some "json" => some .json
  | _ => none

end Format

/-! ## The language in a name -/

/-- Two or three small letters. -/
def isLanguageSegment (segment : List Char) : Bool :=
  (segment.length == 2 || segment.length == 3) && segment.all Char.isLower

/-- Segments with a character in between. -/
def joinSegments (between : Char) (segments : List (List Char)) : String :=
  String.ofList (List.intercalate [between] segments)

/-- Whether segments name a language: the first looks like one and all together read as one. -/
def namesLanguage : List (List Char) → Bool
  | [] => false
  | segment :: rest =>
    isLanguageSegment segment
      && (LanguageId.ofText? (joinSegments '-' (segment :: rest))).isSome

/-- The language at the end of segments: from the first segment on that starts one. -/
def languageSuffix? : List (List Char) → Option String
  | [] => none
  | segment :: rest =>
    if namesLanguage (segment :: rest) then some (joinSegments '_' (segment :: rest))
    else languageSuffix? rest

/-- The language that the name of a file tells: a name of one segment is a language itself, of
several the first is the domain. -/
def languageOfPath? (path : String) : Option String :=
  match Path.stem? path with
  | none => none
  | some stem =>
    match stem.toList.splitOnP (· == '_') with
    | _ :: segment :: rest => languageSuffix? (segment :: rest)
    | segments => languageSuffix? segments

end Linguist
